import Offside.Chunk
import Offside.Margin
import Offside.Place.Order
import Offside.RawLiteral
import Offside.Text.Blank
import Offside.Text.Slice

/-!
# What reading passes over

`p.Reads chars q` says that `q` is the place behind `chars`, which stand at `p`. Main statements:

* `slice?_of_reads` — the characters are the slice of the text between the two offsets.
* `exists_reads_chunkEnd` — a chunk that does not start with a blank is not empty and has no blanks.
* `Reads.cases` — of two places further on, one is reached by way of the other.
* `exists_reads_of_read_eq_closed` — a raw string literal opens and closes with as many `#`.
-/

namespace Offside
namespace Place

/-- Reading `chars` at `p` leads to `q`. -/
structure Reads (p : Place) (chars : List Char) (q : Place) : Prop where
  after_eq : p.after = chars ++ q.after
  before_eq : q.before = chars.reverse ++ p.before

theorem reads_nil (p : Place) : p.Reads [] p :=
  ⟨rfl, rfl⟩

theorem Reads.append {p q r : Place} {front back : List Char} (first : p.Reads front q)
    (second : q.Reads back r) : p.Reads (front ++ back) r := by
  refine ⟨?_, ?_⟩
  · rw [first.after_eq, second.after_eq, List.append_assoc]
  · rw [second.before_eq, first.before_eq, List.reverse_append, List.append_assoc]

theorem reads_advanceWhile (p : Place) (continues : Char → Bool) :
    p.Reads (p.after.takeWhile continues) (p.advanceWhile continues) :=
  ⟨by simp, by simp⟩

theorem Reads.unique {p q r : Place} {chars : List Char} (first : p.Reads chars q)
    (second : p.Reads chars r) : q = r := by
  refine Place.ext ?_ ?_
  · rw [first.before_eq, second.before_eq]
  · exact List.append_cancel_left (first.after_eq.symm.trans second.after_eq)

/-- A run ends in front of the first character that does not belong to it. -/
theorem takeWhile_of_after_eq {p : Place} {front back : List Char} {c : Char}
    {continues : Char → Bool} (text : p.after = front ++ c :: back)
    (run : ∀ d ∈ front, continues d = true) (ends : continues c = false) :
    p.after.takeWhile continues = front := by
  rw [text, List.takeWhile_append_of_pos run, List.takeWhile_cons_of_neg (by simp [ends]),
    List.append_nil]

theorem reads_advanceWhile_of_after_eq {p : Place} {front back : List Char} {c : Char}
    {continues : Char → Bool} (text : p.after = front ++ c :: back)
    (run : ∀ d ∈ front, continues d = true) (ends : continues c = false) :
    p.Reads front (p.advanceWhile continues) := by
  have reads := reads_advanceWhile p continues
  rwa [takeWhile_of_after_eq text run ends] at reads

theorem Reads.after_eq_of_append {p q : Place} {chars rest : List Char} (h : p.Reads chars q)
    (text : p.after = chars ++ rest) : q.after = rest :=
  List.append_cancel_left (h.after_eq.symm.trans text)

theorem reads_advanceBy (p : Place) (n : Nat) : p.Reads (p.after.take n) (p.advanceBy n) :=
  ⟨by simp, by simp⟩

theorem reads_advance {p : Place} {c : Char} (h : p.lookahead = some c) :
    p.Reads [c] p.advance := by
  have next := lookahead_eq_some_iff.1 h
  refine ⟨next, ?_⟩
  rw [before_advance, next]
  rfl

theorem Reads.offset_eq {p q : Place} {chars : List Char} (h : p.Reads chars q) :
    q.offset = p.offset + Text.byteLength chars := by
  rw [Place.offset_eq q, Place.offset_eq p, h.before_eq, Text.byteLength_append,
    Text.byteLength_reverse, Nat.add_comm]

/-- Only reading nothing leads nowhere. -/
theorem Reads.offset_eq_iff {p q : Place} {chars : List Char} (h : p.Reads chars q) :
    q.offset = p.offset ↔ chars = [] := by
  rw [h.offset_eq, Nat.add_eq_left, Text.byteLength_eq_zero_iff]

theorem atEnd_iff_offset_eq {p : Place} :
    p.atEnd = true ↔ p.offset = Text.byteLength p.source := by
  rw [atEnd_iff, source, Text.byteLength_append, Text.byteLength_reverse, ← p.offset_eq,
    Nat.left_eq_add, Text.byteLength_eq_zero_iff]

theorem offset_lt_advance {p : Place} {c : Char} (next : p.lookahead = some c) :
    p.offset < p.advance.offset := by
  have wide := c.utf8Size_pos
  rw [(reads_advance next).offset_eq]
  simpa using wide

theorem Reads.source_eq {p q : Place} {chars : List Char} (h : p.Reads chars q) :
    q.source = p.source := by
  rw [source, source, h.before_eq, h.after_eq, List.reverse_append, List.reverse_reverse,
    List.append_assoc]

/-- The characters read are a slice of the text. -/
theorem slice?_of_reads {source : String} {p q : Place} {chars : List Char}
    (text : p.source = source.toList) (h : p.Reads chars q) :
    Text.slice? source p.offset q.offset = some (String.ofList chars) := by
  -- The text is cut in three: what stands before `p`, what is read, and what is left at `q`.
  refine Text.slice?_eq_some_iff.2
    ⟨String.ofList p.before.reverse, String.ofList q.after, ?_, ?_, ?_⟩
  · rw [← String.ofList_append, ← String.ofList_append, List.append_assoc, ← h.after_eq]
    exact String.toList_injective (by rw [String.toList_ofList, ← text, Place.source])
  · rw [← Text.byteLength_eq_utf8ByteSize, Text.byteLength_reverse, Place.offset_eq]
  · rw [← Text.byteLength_eq_utf8ByteSize, ← Text.byteLength_eq_utf8ByteSize,
      Text.byteLength_reverse, h.offset_eq, Place.offset_eq p]

/-! ## Blanks and chunks -/

theorem forall_mem_takeWhile {α : Type} (continues : α → Bool) (items : List α) :
    ∀ item ∈ items.takeWhile continues, continues item = true :=
  List.all_eq_true.1 (List.all_takeWhile)

theorem isBlank_of_isMarginChar {c : Char} (h : Margin.isMarginChar c = true) :
    Text.isBlank c = true := by
  simp only [Margin.isMarginChar, Bool.or_eq_true, beq_iff_eq] at h
  rcases h with ((rfl | rfl) | rfl) | rfl <;> rfl

/-- The code points of the blank characters. -/
def blankCodes : List Nat :=
  [0x09, 0x0A, 0x0B, 0x0C, 0x0D, 0x20, 0x85, 0xA0, 0x1680, 0x2000, 0x2001, 0x2002, 0x2003, 0x2004,
   0x2005, 0x2006, 0x2007, 0x2008, 0x2009, 0x200A, 0x2028, 0x2029, 0x202F, 0x205F, 0x3000]

theorem toNat_mem_blankCodes {c : Char} (h : Text.isBlank c = true) : c.toNat ∈ blankCodes := by
  simp only [Text.isBlank, Bool.or_eq_true, Bool.and_eq_true, decide_eq_true_eq, beq_iff_eq] at h
  simp only [blankCodes, List.mem_cons, List.not_mem_nil, or_false]
  omega

/-- No blank character belongs to a word. -/
theorem isBlank_eq_false_of_isWordChar {c : Char} (h : Chunk.isWordChar c = true) :
    Text.isBlank c = false := by
  cases blank : Text.isBlank c with
  | false => rfl
  | true =>
      -- There are few blanks, and the table of alphanumeric ranges is searched for each of them.
      have outside : ∀ code ∈ blankCodes, Chunk.isWordChar (Char.ofNat code) = false := by
        decide +kernel
      have none_such := outside c.toNat (toNat_mem_blankCodes blank)
      rw [Char.ofNat_toNat, h] at none_such
      cases none_such

theorem isBlank_eq_false_of_isOperatorChar {c : Char} (h : Chunk.isOperatorChar c = true) :
    Text.isBlank c = false := by
  have visible : Chunk.operators.all (fun c => !Text.isBlank c) = true := by decide
  simpa using List.all_eq_true.1 visible c (List.contains_iff_mem.1 h)

/-- Where blanks were skipped, no blank follows. -/
theorem isBlank_eq_false_of_lookahead_advanceWhile {p : Place} {c : Char}
    (h : (p.advanceWhile Text.isBlank).lookahead = some c) : Text.isBlank c = false := by
  have visible := List.head?_dropWhile_not Text.isBlank p.after
  rw [lookahead, after_advanceWhile] at h
  rw [h] at visible
  simpa using visible

theorem advanceWhile_advanceWhile (p : Place) (continues : Char → Bool) :
    (p.advanceWhile continues).advanceWhile continues = p.advanceWhile continues := by
  -- The first run ended at a character that does not continue it, so the second one is empty.
  have stops := List.head?_dropWhile_not continues p.after
  have nothing : (p.after.dropWhile continues).takeWhile continues = [] := by
    cases rest : p.after.dropWhile continues with
    | nil => rfl
    | cons c _ =>
        rw [rest] at stops
        exact List.takeWhile_cons_of_neg (by simpa using stops)
  have reads := reads_advanceWhile (p.advanceWhile continues) continues
  rw [after_advanceWhile, nothing] at reads
  exact reads.unique (reads_nil _)

theorem lookahead_of_atEnd_eq_false {p : Place} (h : p.atEnd = false) :
    ∃ c, p.lookahead = some c := by
  rcases p with ⟨before, _ | ⟨c, rest⟩, offset, offset_eq⟩
  · cases h
  · exact ⟨c, rfl⟩

theorem reads_run {p : Place} {c : Char} (next : p.lookahead = some c) (continues : Char → Bool)
    (begins : continues c = true) :
    ∃ rest, p.Reads (c :: rest) (p.advanceWhile continues) ∧
      ∀ d ∈ c :: rest, continues d = true := by
  have run : p.after.takeWhile continues = c :: p.advance.after.takeWhile continues := by
    rw [lookahead_eq_some_iff.1 next, List.takeWhile_cons_of_pos begins]
  refine ⟨p.advance.after.takeWhile continues, ?_, ?_⟩
  · rw [← run]
    exact reads_advanceWhile p continues
  · rw [← run]
    exact forall_mem_takeWhile continues p.after

/-- A chunk is a run of word characters, a run of operator characters, or one character. -/
theorem exists_reads_chunkEnd {p : Place} {c : Char} (next : p.lookahead = some c) :
    ∃ rest, p.Reads (c :: rest) p.chunkEnd ∧
      ((∀ d ∈ c :: rest, Chunk.isWordChar d = true) ∨
        (∀ d ∈ c :: rest, Chunk.isOperatorChar d = true) ∨ rest = []) := by
  cases word : Chunk.isWordChar c with
  | true =>
      rcases reads_run next _ word with ⟨rest, reads, all_word⟩
      refine ⟨rest, ?_, .inl all_word⟩
      simpa [chunkEnd, next, word] using reads
  | false =>
      cases operator : Chunk.isOperatorChar c with
      | true =>
          rcases reads_run next _ operator with ⟨rest, reads, all_operator⟩
          refine ⟨rest, ?_, .inr (.inl all_operator)⟩
          simpa [chunkEnd, next, word, operator] using reads
      | false =>
          refine ⟨[], ?_, .inr (.inr rfl)⟩
          simpa [chunkEnd, next, word, operator] using reads_advance next

/-- A chunk that does not start with a blank has none. -/
theorem exists_reads_chunkEnd_of_not_isBlank {p : Place} {c : Char} (next : p.lookahead = some c)
    (visible : Text.isBlank c = false) :
    ∃ rest, p.Reads (c :: rest) p.chunkEnd ∧ ∀ d ∈ c :: rest, Text.isBlank d = false := by
  rcases exists_reads_chunkEnd next with ⟨rest, reads, words | operators | rfl⟩
  · exact ⟨rest, reads, fun d member => isBlank_eq_false_of_isWordChar (words d member)⟩
  · exact ⟨rest, reads, fun d member => isBlank_eq_false_of_isOperatorChar (operators d member)⟩
  · refine ⟨[], reads, ?_⟩
    intro d member
    rw [List.mem_singleton.1 member]
    exact visible

/-! ## Comparing what is read -/

section

variable {p q r : Place} {chars front back : List Char}

theorem Reads.behind (whole : p.Reads (front ++ back) r) (part : p.Reads front q) : q.Reads back r := by
  have rest : q.after = back ++ r.after :=
    part.after_eq_of_append (by rw [whole.after_eq, List.append_assoc])
  refine ⟨rest, ?_⟩
  rw [whole.before_eq, part.before_eq, List.reverse_append, List.append_assoc]

theorem Reads.chars_eq (first : p.Reads front q) (second : p.Reads back q) : front = back :=
  List.append_cancel_right (first.after_eq.symm.trans second.after_eq)

theorem Reads.lookahead_eq {c : Char} (reads : p.Reads (c :: back) q) : p.lookahead = some c := by
  rw [lookahead, reads.after_eq]
  rfl

/-- Of two places further on, one is reached by way of the other. -/
theorem Reads.cases (first : p.Reads front q) (second : p.Reads chars r) :
    (∃ rest, front = chars ++ rest ∧ r.Reads rest q) ∨
      ∃ c rest, chars = front ++ c :: rest ∧ q.Reads (c :: rest) r := by
  rcases List.append_eq_append_iff.1 (first.after_eq.symm.trans second.after_eq) with
    ⟨rest, rfl, _⟩ | ⟨rest, rfl, _⟩
  · cases rest with
    | nil => exact .inl ⟨[], by simp, Reads.behind (by simpa using first) second⟩
    | cons c rest => exact .inr ⟨c, rest, rfl, second.behind first⟩
  · exact .inl ⟨rest, rfl, first.behind second⟩

/-- A run that does not take in the character at `q` ends in front of `q`. -/
theorem exists_reads_of_run {c : Char} {continues : Char → Bool} (reads : p.Reads chars q)
    (next : q.lookahead = some c) (ends : continues c = false) :
    ∃ rest, (p.advanceWhile continues).Reads rest q := by
  rcases reads.cases (reads_advanceWhile p continues) with ⟨rest, _, onward⟩ | ⟨d, rest, run, onward⟩
  · exact ⟨rest, onward⟩
  · have same : c = d := Option.some.inj (next.symm.trans onward.lookahead_eq)
    have goes_on := forall_mem_takeWhile continues p.after d (by simp [run])
    rw [← same, ends] at goes_on
    cases goes_on

end

end Place

/-! ## Raw string literals -/

namespace RawLiteral

/-- How a literal with `pounds` signs is closed. -/
def closing (pounds : Nat) : List Char :=
  '"' :: List.replicate pounds '#'

theorem closing_succ (pounds : Nat) : closing (pounds + 1) = closing pounds ++ ['#'] := by
  simp [closing, List.replicate_succ']

/-- A literal: `r`, some `#`, a quote, the content, and as much again to close it. The signs are
counted in 32 bits. -/
def Spells (chars : List Char) : Prop :=
  ∃ signs content,
    chars = 'r' :: List.replicate signs '#' ++ '"' :: content ++ closing (signs % UInt32.size)

/-- No more than `pounds` signs were counted. -/
def Delimiter.Within (delimiter : Delimiter) (pounds : UInt32) : Prop :=
  ∀ begun, delimiter = some begun → begun ≤ pounds

theorem Delimiter.within_none (pounds : UInt32) : Delimiter.Within none pounds := by
  intro begun counted
  cases counted

/-- A count that has not come to `pounds` does not go around. -/
theorem Delimiter.toNat_add_one {delimiter : Delimiter} {begun pounds : UInt32}
    (within : delimiter.Within pounds) (incomplete : delimiter ≠ some pounds)
    (counted : delimiter = some begun) :
    begun.toNat < pounds.toNat ∧ (begun + 1).toNat = begun.toNat + 1 := by
  have fewer : begun.toNat < pounds.toNat := by
    refine Nat.lt_of_le_of_ne (UInt32.le_iff_toNat_le.1 (within begun counted)) fun same => ?_
    exact incomplete (counted.trans (congrArg some (UInt32.toNat_inj.1 same)))
  refine ⟨fewer, ?_⟩
  rw [UInt32.toNat_add]
  exact Nat.mod_eq_of_lt (Nat.lt_of_le_of_lt fewer pounds.toNat_lt)

/-- Only a quote and the signs behind it are counted. -/
theorem Delimiter.cases_of_read {delimiter : Delimiter} {c : Char} {counted : UInt32}
    (read : delimiter.read c = some counted) :
    (c = '"' ∧ counted = 0) ∨
      (c = '#' ∧ ∃ begun, delimiter = some begun ∧ counted = begun + 1) := by
  simp only [Delimiter.read] at read
  split at read
  next quote =>
    cases read
    exact .inl ⟨quote, rfl⟩
  next =>
    split at read
    next sign =>
      rcases Option.map_eq_some_iff.1 read with ⟨begun, before, rfl⟩
      exact .inr ⟨sign, begun, before, rfl⟩
    · cases read

theorem Delimiter.within_read {delimiter : Delimiter} {pounds : UInt32}
    (within : delimiter.Within pounds) (incomplete : delimiter ≠ some pounds) (c : Char) :
    (delimiter.read c).Within pounds := by
  intro counted read
  rcases Delimiter.cases_of_read read with ⟨_, rfl⟩ | ⟨_, begun, before, rfl⟩
  · exact UInt32.zero_le
  · rcases Delimiter.toNat_add_one within incomplete before with ⟨fewer, onward⟩
    rw [UInt32.le_iff_toNat_le, onward]
    exact fewer

/-- A delimiter that was begun stands at the end of what was read. -/
def Delimiter.Follows (delimiter : Delimiter) (front : List Char) : Prop :=
  ∀ begun, delimiter = some begun → ∃ content, front = content ++ closing begun.toNat

theorem Delimiter.follows_read {delimiter : Delimiter} {pounds : UInt32} {front : List Char}
    (within : delimiter.Within pounds) (incomplete : delimiter ≠ some pounds)
    (h : delimiter.Follows front) (c : Char) : (delimiter.read c).Follows (front ++ [c]) := by
  intro counted read
  rcases Delimiter.cases_of_read read with ⟨rfl, rfl⟩ | ⟨rfl, begun, before, rfl⟩
  · exact ⟨front, rfl⟩
  · rcases h begun before with ⟨content, rfl⟩
    rw [(Delimiter.toNat_add_one within incomplete before).2, closing_succ]
    exact ⟨content, List.append_assoc _ _ _⟩

/-- What is counted as the body of a literal ends with its closing delimiter. -/
theorem exists_content_of_bodyLength? {pounds : UInt32} {length : Nat} :
    ∀ (chars front : List Char) (delimiter : Delimiter),
      delimiter.Within pounds → delimiter.Follows front →
      bodyLength? pounds delimiter front.length chars = some length →
      ∃ content, (front ++ chars).take length = content ++ closing pounds.toNat := by
  -- The invariant: a delimiter that was begun stands at the end of `front`, what was read so far.
  intro chars
  induction chars with
  | nil =>
      intro front delimiter _ follows counted
      simp only [bodyLength?] at counted
      split at counted
      next complete =>
        cases counted
        simpa using follows pounds complete
      · cases counted
  | cons c rest ih =>
      intro front delimiter within follows counted
      simp only [bodyLength?] at counted
      split at counted
      next complete =>
        cases counted
        simpa using follows pounds complete
      next incomplete =>
        have counted_on : bodyLength? pounds (delimiter.read c) (front ++ [c]).length rest =
            some length := by simpa using counted
        simpa using ih (front ++ [c]) (delimiter.read c)
          (Delimiter.within_read within incomplete c)
          (Delimiter.follows_read within incomplete follows c) counted_on

/-- What is read as a literal is spelled like one. -/
theorem exists_reads_of_read_eq_closed {p stop : Place} (letter : p.lookahead = some 'r')
    (h : read p = .closed stop) : ∃ chars, p.Reads chars stop ∧ Spells chars := by
  simp only [read] at h
  split at h
  next quote =>
    split at h
    next length counted =>
      cases h
      have signs : p.advance.after.takeWhile (· == '#') =
          List.replicate (p.advance.after.takeWhile (· == '#')).length '#' := by
        refine List.eq_replicate_iff.2 ⟨rfl, ?_⟩
        intro c member
        simpa using Place.forall_mem_takeWhile (· == '#') p.advance.after c member
      rcases exists_content_of_bodyLength? _ [] none (Delimiter.within_none _)
        (by intro _ begun; cases begun) counted with ⟨content, body⟩
      -- The four pieces of the literal: its `r`, the signs, the quote, and the body with its end.
      refine ⟨_, (Place.reads_advance letter).append ((Place.reads_advanceWhile _ _).append
        ((Place.reads_advance quote).append (Place.reads_advanceBy _ length))), ?_⟩
      refine ⟨(p.advance.after.takeWhile (· == '#')).length, content, ?_⟩
      rw [List.nil_append, UInt32.toNat_ofNat'] at body
      rw [body, ← signs]
      simp [UInt32.size]
    · cases h
  · cases h

end RawLiteral

end Offside
