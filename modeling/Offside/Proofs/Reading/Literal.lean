import Mathlib.Data.Nat.Find
import Offside.Proofs.Reading.Lookahead

/-!
# Where a raw string ends

A literal is read in one pass. Behind each quote of its content the reader counts signs; if they are too
few it reads on where it stands and does not go back behind the quote. It misses no end that way: what it
has counted are signs, and an end starts with a quote. Main definitions and statements:

* `RawLiteral.Delimiter.Ends` — what the reader keeps in mind is how the text that it has read ends.
* `RawLiteral.bodyLength?_eq_some_iff` — so it stops at the shortest text that ends like a literal.
* `RawLiteral.ClosesFirst` — the first position at which a literal can be closed.
* `RawLiteral.read_decides` — a literal is closed there, and unterminated only if there is none.
-/

namespace Offside
namespace RawLiteral

/-! ## What has just been read -/

theorem length_closing (pounds : Nat) : (closing pounds).length = pounds + 1 := by
  simp [closing]

theorem concat_suffix_concat_iff {text front : List Char} {c d : Char} :
    text ++ [c] <:+ front ++ [d] ↔ c = d ∧ text <:+ front := by
  simp only [List.suffix_concat_iff, List.append_singleton_inj]
  constructor
  · rintro (empty | ⟨_, ⟨rfl, same⟩, ends⟩)
    · simp at empty
    · exact ⟨same, ends⟩
  · rintro ⟨same, ends⟩
    exact .inr ⟨text, ⟨rfl, same⟩, ends⟩

/-- A closing delimiter ends with its quote or, if it has signs, with the last of them. -/
theorem closing_suffix_concat_iff {pounds : Nat} {front : List Char} {c : Char} :
    closing pounds <:+ front ++ [c] ↔
      (pounds = 0 ∧ c = '"') ∨ ∃ fewer, pounds = fewer + 1 ∧ c = '#' ∧ closing fewer <:+ front := by
  cases pounds with
  | zero =>
      have quote : closing 0 = [] ++ ['"'] := rfl
      rw [quote, concat_suffix_concat_iff]
      simp [eq_comm]
  | succ fewer =>
      rw [closing_succ, concat_suffix_concat_iff]
      simp [eq_comm]

/-- The delimiter is what the text `front` ends with: a quote and so many signs behind it. -/
def Delimiter.Ends (delimiter : Delimiter) (front : List Char) : Prop :=
  ∀ count, delimiter.map UInt32.toNat = some count ↔ closing count <:+ front

theorem Delimiter.ends_nil : Delimiter.Ends none [] := by
  intro count
  simp [closing]

theorem Delimiter.eq_some_iff_of_ends {delimiter : Delimiter} {front : List Char}
    (h : delimiter.Ends front) (pounds : UInt32) :
    delimiter = some pounds ↔ closing pounds.toNat <:+ front := by
  rw [← h pounds.toNat, Option.map_eq_some_iff]
  constructor
  · exact fun complete => ⟨pounds, complete, rfl⟩
  · rintro ⟨begun, counted, same⟩
    rw [counted, UInt32.toNat_inj.1 same]

/-- The count is that of the signs as long as it has not come to `pounds`. -/
theorem Delimiter.ends_read {delimiter : Delimiter} {pounds : UInt32} {front : List Char}
    (within : delimiter.Within pounds) (incomplete : delimiter ≠ some pounds)
    (h : delimiter.Ends front) (c : Char) : (delimiter.read c).Ends (front ++ [c]) := by
  intro count
  rw [closing_suffix_concat_iff, Delimiter.read]
  split
  next quote => simp [quote, eq_comm]
  next no_quote =>
    split
    next sign =>
      -- One more sign behind the same quote.
      rw [Option.map_map, Option.map_eq_some_iff]
      constructor
      · rintro ⟨begun, counted, rfl⟩
        have onward := (Delimiter.toNat_add_one within incomplete counted).2
        exact .inr ⟨begun.toNat, onward, sign, (Delimiter.eq_some_iff_of_ends h begun).1 counted⟩
      · rintro (⟨_, quote⟩ | ⟨fewer, rfl, _, ends⟩)
        · exact absurd quote no_quote
        · rcases Option.map_eq_some_iff.1 ((h fewer).2 ends) with ⟨begun, counted, rfl⟩
          exact ⟨begun, counted, (Delimiter.toNat_add_one within incomplete counted).2⟩
    next no_sign => simp [no_quote, no_sign]

/-! ## The shortest text that ends like a literal -/

/-- `text.take length` is the shortest beginning of `text`, of at least `least` characters, that ends
like a literal with `pounds` signs. -/
structure Shortest (pounds : Nat) (text : List Char) (least length : Nat) : Prop where
  least_le : least ≤ length
  le_length : length ≤ text.length
  ends : closing pounds <:+ text.take length
  none_shorter : ∀ shorter, least ≤ shorter → shorter < length → ¬ closing pounds <:+ text.take shorter

/-- Where `front` itself ends like a literal, nothing more is read. -/
theorem shortest_front_iff {pounds length : Nat} {front rest : List Char}
    (ends : closing pounds <:+ front) :
    Shortest pounds (front ++ rest) front.length length ↔ front.length = length := by
  constructor
  · intro shortest
    refine Nat.le_antisymm shortest.least_le (Nat.le_of_not_lt fun longer => ?_)
    exact shortest.none_shorter front.length (Nat.le_refl _) longer (by simpa using ends)
  · rintro rfl
    refine ⟨Nat.le_refl _, by simp, by simpa using ends, ?_⟩
    intro shorter least longer
    omega

theorem shortest_succ_iff {pounds length least : Nat} {text : List Char}
    (unfinished : ¬ closing pounds <:+ text.take least) :
    Shortest pounds text (least + 1) length ↔ Shortest pounds text least length := by
  constructor
  · intro shortest
    refine ⟨Nat.le_of_succ_le shortest.least_le, shortest.le_length, shortest.ends, ?_⟩
    intro shorter from_least longer
    rcases Nat.eq_or_lt_of_le from_least with rfl | above
    · exact unfinished
    · exact shortest.none_shorter shorter above longer
  · intro shortest
    refine ⟨Nat.lt_of_le_of_ne shortest.least_le ?_, shortest.le_length, shortest.ends, ?_⟩
    · rintro rfl
      exact unfinished shortest.ends
    · intro shorter above longer
      exact shortest.none_shorter shorter (Nat.le_of_succ_le above) longer

/-- The induction is on what is left of the text. The delimiter stays the end of `front`, which is what
was read so far. -/
theorem bodyLength?_eq_some_iff {pounds : UInt32} {length : Nat} (rest : List Char) :
    ∀ (front : List Char) (delimiter : Delimiter), delimiter.Within pounds → delimiter.Ends front →
      (bodyLength? pounds delimiter front.length rest = some length ↔
        Shortest pounds.toNat (front ++ rest) front.length length) := by
  induction rest with
  | nil =>
      intro front delimiter _ ends
      have complete_iff := Delimiter.eq_some_iff_of_ends ends pounds
      simp only [bodyLength?]
      split
      next complete =>
        rw [shortest_front_iff (complete_iff.1 complete), Option.some.injEq]
      next incomplete =>
        refine iff_of_false (by simp) fun shortest => incomplete (complete_iff.2 ?_)
        -- There is no longer text than `front`.
        have whole : length = front.length :=
          Nat.le_antisymm (by simpa using shortest.le_length) shortest.least_le
        simpa [whole] using shortest.ends
  | cons c rest ih =>
      intro front delimiter within ends
      have complete_iff := Delimiter.eq_some_iff_of_ends ends pounds
      simp only [bodyLength?]
      split
      next complete =>
        rw [shortest_front_iff (complete_iff.1 complete), Option.some.injEq]
      next incomplete =>
        have later := ih (front ++ [c]) (delimiter.read c)
          (Delimiter.within_read within incomplete c)
          (Delimiter.ends_read within incomplete ends c)
        rw [List.length_append, List.length_singleton, List.append_assoc, List.singleton_append] at later
        rw [later, shortest_succ_iff]
        simpa using fun ended => incomplete (complete_iff.2 ended)

theorem bodyLength?_ofNat_eq_some_iff {count length : Nat} {text : List Char} :
    bodyLength? (.ofNat count) none 0 text = some length ↔
      Shortest (count % UInt32.size) text 0 length := by
  have counted : (UInt32.ofNat count).toNat = count % UInt32.size := UInt32.toNat_ofNat'
  rw [← counted]
  exact bodyLength?_eq_some_iff text [] none (Delimiter.within_none _) Delimiter.ends_nil

/-! ## The first position at which a literal can be closed -/

/-- A literal with `pounds` signs whose content starts with `text` can be closed at `position` and at no
position before it. -/
structure ClosesFirst (pounds : Nat) (text : List Char) (position : Nat) : Prop where
  closes : closing pounds <+: text.drop position
  not_before : ∀ earlier < position, ¬ closing pounds <+: text.drop earlier

theorem position_le_of_closes {pounds position : Nat} {text : List Char}
    (closes : closing pounds <+: text.drop position) : position + (pounds + 1) ≤ text.length := by
  have fits := closes.length_le
  rw [length_closing, List.length_drop] at fits
  omega

/-- A closing delimiter at a position ends what is read up to its end. -/
theorem closes_iff {pounds position : Nat} {text : List Char} :
    closing pounds <+: text.drop position ↔
      position + (pounds + 1) ≤ text.length ∧
        closing pounds <:+ text.take (position + (pounds + 1)) := by
  constructor
  · intro closes
    refine ⟨position_le_of_closes closes, text.take position, ?_⟩
    rw [List.take_add, List.append_cancel_left_eq, ← length_closing pounds]
    exact List.prefix_iff_eq_take.1 closes
  · rintro ⟨fits, content, ends⟩
    have long : content.length = position := by
      have lengths := congrArg List.length ends
      rw [List.length_append, length_closing, List.length_take, Nat.min_eq_left fits] at lengths
      omega
    refine ⟨text.drop (position + (pounds + 1)), ?_⟩
    have whole := List.take_append_drop (position + (pounds + 1)) text
    rw [← ends, List.append_assoc] at whole
    rw [← whole, List.drop_left' long, whole]

theorem closesFirst_iff {pounds position : Nat} {text : List Char} :
    ClosesFirst pounds text position ↔
      Shortest pounds text 0 (position + (pounds + 1)) := by
  constructor
  · intro first
    rcases closes_iff.1 first.closes with ⟨fits, ends⟩
    refine ⟨Nat.zero_le _, fits, ends, ?_⟩
    intro shorter _ shorter_lt ended
    -- What ends like a literal is at least as long as the end.
    have long := ended.length_le
    rw [length_closing, List.length_take] at long
    refine first.not_before (shorter - (pounds + 1)) (by omega) (closes_iff.2 ?_)
    rw [Nat.sub_add_cancel (by omega)]
    exact ⟨by omega, ended⟩
  · intro shortest
    refine ⟨closes_iff.2 ⟨shortest.le_length, shortest.ends⟩, ?_⟩
    intro earlier before closes
    exact shortest.none_shorter _ (Nat.zero_le _) (by omega) (closes_iff.1 closes).2

theorem exists_closesFirst {pounds position : Nat} {text : List Char}
    (closes : closing pounds <+: text.drop position) : ∃ first, ClosesFirst pounds text first := by
  classical
  have found : ∃ candidate, closing pounds <+: text.drop candidate := ⟨position, closes⟩
  exact ⟨Nat.find found, Nat.find_spec found, fun earlier before => Nat.find_min found before⟩

theorem bodyLength?_of_closesFirst {count position : Nat} {text : List Char}
    (first : ClosesFirst (count % UInt32.size) text position) :
    bodyLength? (.ofNat count) none 0 text = some (position + (count % UInt32.size + 1)) :=
  bodyLength?_ofNat_eq_some_iff.2 (closesFirst_iff.1 first)

theorem bodyLength?_eq_none_iff {count : Nat} {text : List Char} :
    bodyLength? (.ofNat count) none 0 text = none ↔
      ∀ position, ¬ closing (count % UInt32.size) <+: text.drop position := by
  constructor
  · intro nothing position closes
    rcases exists_closesFirst closes with ⟨first, closes_first⟩
    cases nothing.symm.trans (bodyLength?_of_closesFirst closes_first)
  · intro open_end
    cases counted : bodyLength? (.ofNat count) none 0 text with
    | none => rfl
    | some length =>
        have shortest := bodyLength?_ofNat_eq_some_iff.1 counted
        have long := shortest.ends.length_le
        rw [length_closing, List.length_take] at long
        refine absurd (closes_iff.2 ?_) (open_end (length - (count % UInt32.size + 1)))
        rw [Nat.sub_add_cancel (by omega)]
        exact ⟨shortest.le_length, shortest.ends⟩

/-- A delimiter that starts in the content of a literal does not reach into the quote behind it. -/
theorem infix_of_closes {pounds position : Nat} {content rest : List Char}
    (inside : position < content.length)
    (closes : closing pounds <+: (content ++ closing pounds ++ rest).drop position) :
    closing pounds <:+: content := by
  have behind : (content ++ closing pounds ++ rest).drop position =
      content.drop position ++ (closing pounds ++ rest) := by
    rw [List.append_assoc, List.drop_append_of_le_length (Nat.le_of_lt inside)]
  rw [behind] at closes
  have within : content.drop position <:+: content := (List.drop_suffix _ _).isInfix
  rcases List.prefix_or_prefix_of_prefix closes (List.prefix_append _ _) with short | ⟨signs, long⟩
  · exact short.isInfix.trans within
  · cases signs with
    | nil =>
        rw [List.append_nil] at long
        rwa [long] at within
    | cons c more =>
        -- The delimiter would go on with the quote that closes the literal, but only signs are left.
        have some_inside : 0 < (content.drop position).length := by
          rw [List.length_drop]
          exact Nat.sub_pos_of_lt inside
        rcases List.length_pos_iff_exists_cons.1 some_inside with ⟨d, front, opens⟩
        have onward : c :: more <+: closing pounds ++ rest := by
          rw [← List.prefix_append_right_inj (content.drop position), long]
          exact closes
        have quote : c = '"' := (List.cons_prefix_cons.1 onward).1
        have sign : c ∈ List.replicate pounds '#' := by
          rw [opens] at long
          rw [← (List.cons.inj long).2]
          simp
        rw [quote, List.mem_replicate] at sign
        exact absurd sign.2 (by decide)

/-- A content in which the literal is not closed is closed right behind it. -/
theorem closesFirst_of_content {pounds : Nat} {content : List Char} (rest : List Char)
    (unclosed : ¬ closing pounds <:+: content) :
    ClosesFirst pounds (content ++ closing pounds ++ rest) content.length := by
  refine ⟨by simp, ?_⟩
  intro earlier before closes
  exact unclosed (infix_of_closes before closes)

/-! ## Reading a literal -/

section

variable {p : Place}

theorem read_of_no_quote (no_quote : (opening p).lookahead ≠ some '"') :
    read p = .absent (opening p) := by
  rw [read_eq, if_neg no_quote]

theorem read_of_closesFirst (quote : (opening p).lookahead = some '"') {position : Nat}
    (first : ClosesFirst (signs p % UInt32.size) (opening p).advance.after position) :
    read p = .closed ((opening p).advance.advanceBy (position + (signs p % UInt32.size + 1))) := by
  rw [read_eq, if_pos quote, bodyLength?_of_closesFirst first]

theorem read_of_unclosed (quote : (opening p).lookahead = some '"')
    (unclosed : ∀ position,
      ¬ closing (signs p % UInt32.size) <+: (opening p).advance.after.drop position) :
    read p =
      .unterminated (.ofNat (signs p)) ((opening p).advance.advanceWhile fun _ => true) := by
  rw [read_eq, if_pos quote, bodyLength?_eq_none_iff.2 unclosed]

/-- The `r`, the signs and the quote of a literal that is written out. -/
theorem reads_opening {count : Nat} {text : List Char}
    (spelled : p.after = 'r' :: List.replicate count '#' ++ '"' :: text) :
    signs p = count ∧ (opening p).lookahead = some '"' ∧
      p.Reads ('r' :: List.replicate count '#' ++ ['"']) (opening p).advance := by
  have letter : p.lookahead = some 'r' := by rw [Place.lookahead, spelled]; rfl
  have behind : p.advance.after = List.replicate count '#' ++ '"' :: text := by
    rw [Place.after_advance, spelled]
    rfl
  have run : ∀ c ∈ List.replicate count '#', (c == '#') = true := by
    intro c member
    simpa using (List.mem_replicate.1 member).2
  have to_quote := Place.reads_advanceWhile_of_after_eq behind run rfl
  have quote : (opening p).lookahead = some '"' := by
    rw [opening, Place.lookahead, to_quote.after_eq_of_append behind]
    rfl
  refine ⟨?_, quote, ?_⟩
  · rw [signs, Place.takeWhile_of_after_eq behind run rfl, List.length_replicate]
  · exact ((Place.reads_advance letter).append to_quote).append (Place.reads_advance quote)

/-- A literal that is written out and not closed in its content is read up to its end. -/
theorem exists_read_eq_closed {count : Nat} {content rest : List Char}
    (spelled : p.after = 'r' :: List.replicate count '#' ++ '"' :: content ++
      closing (count % UInt32.size) ++ rest)
    (unclosed : ¬ closing (count % UInt32.size) <:+: content) :
    ∃ stop, read p = .closed stop ∧
      p.Reads ('r' :: List.replicate count '#' ++ '"' :: content ++
        closing (count % UInt32.size)) stop := by
  rcases reads_opening (by simpa using spelled) with ⟨rfl, quote, to_body⟩
  have body : (opening p).advance.after =
      content ++ closing (signs p % UInt32.size) ++ rest :=
    to_body.after_eq_of_append (by simpa using spelled)
  have first := closesFirst_of_content rest unclosed
  rw [← body] at first
  refine ⟨_, read_of_closesFirst quote first, ?_⟩
  have taken : (opening p).advance.after.take (content.length + (signs p % UInt32.size + 1)) =
      content ++ closing (signs p % UInt32.size) := by
    rw [body, ← length_closing, ← List.length_append, List.take_left]
  have to_end := Place.reads_advanceBy (opening p).advance
    (content.length + (signs p % UInt32.size + 1))
  rw [taken] at to_end
  simpa using to_body.append to_end

end

/-- What is read as a literal is decided by the text alone, for as many signs as can be counted. There is
none if the `r` and its signs are not followed by a quote. Otherwise the literal is closed by the first
quote behind that one that as many signs follow, and unterminated if there is no such quote. So every
content that does not itself hold a quote with as many signs is read back, whatever follows it. -/
theorem read_decides (p : Place) (few : signs p < UInt32.size) :
    ((∃ reached, read p = .absent reached) ↔ (opening p).lookahead ≠ some '"') ∧
    ((opening p).lookahead = some '"' →
      ((∃ pounds reached, read p = .unterminated pounds reached) ↔
        ∀ position, ¬ closing (signs p) <+: (opening p).advance.after.drop position) ∧
      (∀ pounds reached, read p = .unterminated pounds reached → pounds.toNat = signs p) ∧
      ∀ position, closing (signs p) <+: (opening p).advance.after.drop position →
        ∃ first, ClosesFirst (signs p) (opening p).advance.after first ∧
          read p = .closed ((opening p).advance.advanceBy (first + (signs p + 1)))) ∧
    ∀ count content rest,
      p.after = 'r' :: List.replicate count '#' ++ '"' :: content ++ closing count ++ rest →
      ¬ closing count <:+: content →
      ∃ stop, read p = .closed stop ∧
        p.Reads ('r' :: List.replicate count '#' ++ '"' :: content ++ closing count) stop := by
  have exact_count : signs p % UInt32.size = signs p := Nat.mod_eq_of_lt few
  refine ⟨⟨?_, fun no_quote => ⟨_, read_of_no_quote no_quote⟩⟩, ?_, ?_⟩
  · rintro ⟨reached, absent⟩ quote
    rw [read_eq, if_pos quote] at absent
    split at absent <;> cases absent
  · intro quote
    have closed_at := fun position => @read_of_closesFirst p quote position
    have open_end := @read_of_unclosed p quote
    rw [exact_count] at closed_at open_end
    refine ⟨⟨?_, fun unclosed => ⟨_, _, open_end unclosed⟩⟩, ?_, ?_⟩
    · rintro ⟨pounds, reached, unterminated⟩ position closes
      rcases exists_closesFirst closes with ⟨first, closes_first⟩
      rw [closed_at first closes_first] at unterminated
      cases unterminated
    · intro pounds reached unterminated
      rw [read_eq, if_pos quote] at unterminated
      split at unterminated <;> cases unterminated
      exact UInt32.toNat_ofNat_of_lt' few
    · intro position closes
      rcases exists_closesFirst closes with ⟨first, closes_first⟩
      exact ⟨first, closes_first, closed_at first closes_first⟩
  · intro count content rest spelled unclosed
    have same : signs p = count := (reads_opening (by simpa using spelled)).1
    have counted : count % UInt32.size = count := same ▸ exact_count
    have read_back := @exists_read_eq_closed p count content rest
    rw [counted] at read_back
    exact read_back spelled unclosed

/-- A literal with a quote in its content that one sign too few follows, and with a sign behind its end. -/
theorem read_decides_short_candidate :
    signs (.start "r##\"a\"#\"###".toList) < UInt32.size ∧
      (Place.start "r##\"a\"#\"###".toList).after =
        'r' :: List.replicate 2 '#' ++ '"' :: ['a', '"', '#'] ++ closing 2 ++ ['#'] ∧
      ¬ closing 2 <:+: ['a', '"', '#'] ∧
      ∃ stop, read (.start "r##\"a\"#\"###".toList) = .closed stop ∧
        (Place.start "r##\"a\"#\"###".toList).Reads
          ('r' :: List.replicate 2 '#' ++ '"' :: ['a', '"', '#'] ++ closing 2) stop := by
  have few : signs (.start "r##\"a\"#\"###".toList) < UInt32.size := by decide
  have spelled : (Place.start "r##\"a\"#\"###".toList).after =
      'r' :: List.replicate 2 '#' ++ '"' :: ['a', '"', '#'] ++ closing 2 ++ ['#'] := rfl
  have unclosed : ¬ closing 2 <:+: ['a', '"', '#'] := by decide
  exact ⟨few, spelled, unclosed, (read_decides _ few).2.2 2 ['a', '"', '#'] ['#'] spelled unclosed⟩

end RawLiteral
end Offside
