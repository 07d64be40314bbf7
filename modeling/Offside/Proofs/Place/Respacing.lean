import Offside.Policy
import Offside.Proofs.Place.Reads

/-!
# Respaced texts

A text is respaced if margin characters are replaced by other margin characters that indent as they do: a
tab by eight spaces, a line break by itself with blanks in front of it. What reads a text sees no difference,
but for the offsets and for the columns of places behind a replaced character. Main definitions and
statements:

* `Respacing` — what the characters are replaced by; `Respacing.respaced` — the respaced text.
* `Respacing.takeWhile_respaced`, `Respacing.dropWhile_respaced` — runs of characters, if all margin
  characters belong to them or none.
* `Place.respace` — the same place in the respaced text.
* `Place.advanceWhile_respace`, `Place.margin_respace`, `Place.acceptance_respace`,
  `Place.chunkEnd_respace` — what reading and looking around makes of it.
-/

namespace Offside

open Text (byteLength)

/-- What the characters of a text are replaced by, depending on their byte offsets. Visible characters stay,
and margins keep their indentation. -/
structure Respacing where
  image : Nat → Char → List Char
  image_of_visible : ∀ offset c, Margin.isMarginChar c = false → image offset c = [c]
  image_ne_nil : ∀ offset c, image offset c ≠ []
  isMarginChar_of_mem : ∀ offset c, Margin.isMarginChar c = true →
    ∀ d ∈ image offset c, Margin.isMarginChar d = true
  extend_image : ∀ offset c (margin : Margin),
    (image offset c).foldl Margin.extend margin = margin.extend c

namespace Respacing

variable (respacing : Respacing)

/-- The respaced text; `offset` bytes stand in front of the text itself. -/
def respaced : Nat → List Char → List Char
  | _, [] => []
  | offset, c :: rest => respacing.image offset c ++ respaced (offset + c.utf8Size) rest

/-- No character of the text is replaced. -/
def Spares : Nat → List Char → Prop
  | _, [] => True
  | offset, c :: rest => respacing.image offset c = [c] ∧ Spares (offset + c.utf8Size) rest

/-- Whatever character stands at the offset, it is not replaced. -/
def Keeps (offset : Nat) : Prop :=
  ∀ c, respacing.image offset c = [c]

/-! ## What a character is replaced by -/

section

variable {test : Char → Bool}

/-- If a test holds of all margin characters or of none, it does not tell a character from what replaces
it. -/
theorem test_of_mem_image (uniform : ∀ c, Margin.isMarginChar c = true → test c = test '\n')
    (offset : Nat) (c : Char) : ∀ d ∈ respacing.image offset c, test d = test c := by
  intro d member
  cases margin : Margin.isMarginChar c with
  | true => rw [uniform d (respacing.isMarginChar_of_mem offset c margin d member), uniform c margin]
  | false =>
      rw [respacing.image_of_visible offset c margin, List.mem_singleton] at member
      rw [member]

theorem exists_image_eq_cons (offset : Nat) (c : Char) :
    ∃ d more, respacing.image offset c = d :: more :=
  List.exists_cons_of_ne_nil (respacing.image_ne_nil offset c)

end

/-! ## Respaced texts -/

section

variable {respacing} {offset : Nat} {text : List Char}

theorem respaced_append (offset : Nat) (front rest : List Char) :
    respacing.respaced offset (front ++ rest) =
      respacing.respaced offset front ++ respacing.respaced (offset + byteLength front) rest := by
  induction front generalizing offset with
  | nil => simp [respaced]
  | cons c front ih =>
      simp only [List.cons_append, respaced, ih, Text.byteLength_cons, List.append_assoc,
        Nat.add_assoc]

theorem respaced_of_spares (spares : respacing.Spares offset text) :
    respacing.respaced offset text = text := by
  induction text generalizing offset with
  | nil => rfl
  | cons c rest ih => rw [respaced, spares.1, List.singleton_append, ih spares.2]

theorem spares_of_visible (visible : ∀ c ∈ text, Margin.isMarginChar c = false) :
    respacing.Spares offset text := by
  induction text generalizing offset with
  | nil => trivial
  | cons c rest ih =>
      refine ⟨respacing.image_of_visible offset c (visible c List.mem_cons_self), ih ?_⟩
      intro d member
      exact visible d (List.mem_cons_of_mem c member)

theorem spares_of_keeps (keeps : ∀ byte, offset ≤ byte → byte < offset + byteLength text →
    respacing.Keeps byte) : respacing.Spares offset text := by
  induction text generalizing offset with
  | nil => trivial
  | cons c rest ih =>
      have wide := c.utf8Size_pos
      rw [Text.byteLength_cons] at keeps
      refine ⟨keeps offset (Nat.le_refl _) (by omega) c, ih ?_⟩
      intro byte from_here within
      exact keeps byte (by omega) (by omega)

theorem isEmpty_respaced (offset : Nat) (text : List Char) :
    (respacing.respaced offset text).isEmpty = text.isEmpty := by
  cases text with
  | nil => rfl
  | cons c rest =>
      rcases respacing.exists_image_eq_cons offset c with ⟨d, more, image⟩
      rw [respaced, image]
      rfl

section

variable {test : Char → Bool} (uniform : ∀ c, Margin.isMarginChar c = true → test c = test '\n')

include uniform

/-- A respaced text starts with a character that passes a uniform test if the text does. -/
theorem any_head?_respaced (offset : Nat) (text : List Char) :
    (respacing.respaced offset text).head?.any test = text.head?.any test := by
  cases text with
  | nil => rfl
  | cons c rest =>
      have alike := respacing.test_of_mem_image uniform offset c
      rcases respacing.exists_image_eq_cons offset c with ⟨d, more, image⟩
      rw [image] at alike
      rw [respaced, image]
      exact alike d List.mem_cons_self

theorem takeWhile_respaced (offset : Nat) (text : List Char) :
    (respacing.respaced offset text).takeWhile test =
      respacing.respaced offset (text.takeWhile test) := by
  induction text generalizing offset with
  | nil => rfl
  | cons c rest ih =>
      have alike := respacing.test_of_mem_image uniform offset c
      cases passes : test c with
      | true =>
          rw [passes] at alike
          rw [respaced, List.takeWhile_append_of_pos alike, List.takeWhile_cons_of_pos passes, ih,
            respaced]
      | false =>
          -- The run ends here in both texts: what replaces `c` fails the test with it.
          have fails : ¬ test c = true := by simp [passes]
          rcases respacing.exists_image_eq_cons offset c with ⟨d, more, image⟩
          rw [image] at alike
          rw [respaced, image, List.cons_append, List.takeWhile_cons_of_neg fails,
            List.takeWhile_cons_of_neg (by rwa [alike d List.mem_cons_self]), respaced]

theorem dropWhile_respaced (offset : Nat) (text : List Char) :
    (respacing.respaced offset text).dropWhile test =
      respacing.respaced (offset + byteLength (text.takeWhile test)) (text.dropWhile test) := by
  have parts := List.takeWhile_append_dropWhile (p := test) (l := respacing.respaced offset text)
  have split : respacing.respaced offset text =
      respacing.respaced offset (text.takeWhile test) ++
        respacing.respaced (offset + byteLength (text.takeWhile test)) (text.dropWhile test) := by
    rw [← respaced_append, List.takeWhile_append_dropWhile]
  rw [takeWhile_respaced uniform] at parts
  exact List.append_cancel_left (parts.trans split)

end

/-- A respaced text starts as the text does, unless that is with a margin. -/
theorem head?_respaced (visible : ∀ c ∈ text.head?, Margin.isMarginChar c = false) (offset : Nat) :
    (respacing.respaced offset text).head? = text.head? := by
  cases text with
  | nil => rfl
  | cons c rest =>
      rw [respaced, respacing.image_of_visible offset c (visible c rfl)]
      rfl

/-- A visible character is first in both texts or in none. -/
theorem head?_respaced_eq_some_iff {c : Char} (visible : Margin.isMarginChar c = false) (offset : Nat)
    (text : List Char) : (respacing.respaced offset text).head? = some c ↔ text.head? = some c := by
  have different {d : Char} (margin : Margin.isMarginChar d = true) : (d == c) = false := by
    refine beq_eq_false_iff_ne.2 ?_
    rintro rfl
    cases visible.symm.trans margin
  have same : (respacing.respaced offset text).head?.any (· == c) = text.head?.any (· == c) := by
    refine any_head?_respaced ?_ offset text
    intro d margin
    rw [different margin, different (by rfl)]
  have found (chars : List Char) : chars.head? = some c ↔ chars.head?.any (· == c) = true := by
    cases chars with
    | nil => simp
    | cons d rest => simp
  rw [found, found, same]

/-- A word without margin characters is not broken up, and none is put together. -/
theorem prefix_respaced_iff {word : List Char}
    (plain : ∀ c ∈ word, Margin.isMarginChar c = false) (offset : Nat) (text : List Char) :
    word <+: respacing.respaced offset text ↔ word <+: text := by
  induction word generalizing offset text with
  | nil => simp
  | cons c word ih =>
      have visible := plain c List.mem_cons_self
      have later := ih fun d member => plain d (List.mem_cons_of_mem c member)
      cases text with
      | nil => simp [respaced]
      | cons d rest =>
          cases margin : Margin.isMarginChar d with
          | true =>
              -- Both texts start with a margin character here, and the word does not.
              rcases respacing.exists_image_eq_cons offset d with ⟨e, more, image⟩
              have also_margin : Margin.isMarginChar e = true :=
                respacing.isMarginChar_of_mem offset d margin e (image ▸ List.mem_cons_self)
              have different {e : Char} (margin : Margin.isMarginChar e = true) : c ≠ e := by
                rintro rfl
                cases visible.symm.trans margin
              simp [respaced, image, List.cons_prefix_cons, different margin, different also_margin]
          | false =>
              simp [respaced, respacing.image_of_visible offset d margin, List.cons_prefix_cons, later]

/-- Behind a word that is not broken up, a respaced text goes on respaced. -/
theorem drop_respaced_of_prefix {word : List Char} (spares : respacing.Spares offset word)
    (starts : word <+: text) :
    (respacing.respaced offset text).drop word.length =
      respacing.respaced (offset + byteLength word) (text.drop word.length) := by
  rcases starts with ⟨rest, rfl⟩
  rw [respaced_append, respaced_of_spares spares, List.drop_left, List.drop_left]

theorem take_respaced_of_spares {n : Nat} (spares : respacing.Spares offset (text.take n)) :
    (respacing.respaced offset text).take n = text.take n := by
  have split : respacing.respaced offset text =
      text.take n ++ respacing.respaced (offset + byteLength (text.take n)) (text.drop n) := by
    conv => lhs; rw [← List.take_append_drop n text, respaced_append, respaced_of_spares spares]
  rw [split]
  by_cases short : n ≤ text.length
  · exact List.take_left' (List.length_take_of_le short)
  · have all := Nat.le_of_lt (Nat.not_le.1 short)
    rw [List.drop_eq_nil_of_le all, List.take_of_length_le all]
    simpa [respaced] using List.take_of_length_le all

theorem foldl_extend_respaced (offset : Nat) (text : List Char) :
    ∀ margin : Margin, (respacing.respaced offset text).foldl Margin.extend margin =
      text.foldl Margin.extend margin := by
  induction text generalizing offset with
  | nil =>
      intro margin
      rfl
  | cons c rest ih =>
      intro margin
      rw [respaced, List.foldl_append, respacing.extend_image, ih, List.foldl_cons]

/-! ## Looking back -/

/-- A respaced text backwards. -/
theorem reverse_respaced_reverse_cons (respacing : Respacing) (c : Char) (rest : List Char) :
    (respacing.respaced 0 (c :: rest).reverse).reverse =
      (respacing.image (byteLength rest) c).reverse ++ (respacing.respaced 0 rest.reverse).reverse := by
  rw [List.reverse_cons, respaced_append, List.reverse_append, Text.byteLength_reverse, Nat.zero_add]
  simp [respaced]

theorem find?_reverse_respaced (respacing : Respacing) (chars : List Char) :
    (respacing.respaced 0 chars.reverse).reverse.find? (fun c => !Text.isBlank c) =
      chars.find? fun c => !Text.isBlank c := by
  induction chars with
  | nil => rfl
  | cons c rest ih =>
      rw [reverse_respaced_reverse_cons, List.find?_append, ih]
      cases margin : Margin.isMarginChar c with
      | true =>
          -- The search goes past the margin, which is blank in both texts.
          have blank : (respacing.image (byteLength rest) c).reverse.find? (fun c => !Text.isBlank c) =
              none := by
            rw [List.find?_eq_none]
            intro d member
            have also_margin := respacing.isMarginChar_of_mem _ c margin d (List.mem_reverse.1 member)
            simp [Place.isBlank_of_isMarginChar also_margin]
          rw [blank, Option.none_or, List.find?_cons_of_neg]
          simp [Place.isBlank_of_isMarginChar margin]
      | false =>
          rw [respacing.image_of_visible _ c margin, List.reverse_singleton, ← List.find?_append]
          rfl

end

end Respacing

/-! ## Places -/

namespace Place

/-- The same place in the respaced text: in front of what replaces the next character. -/
def respace (respacing : Respacing) (p : Place) : Place where
  before := (respacing.respaced 0 p.before.reverse).reverse
  after := respacing.respaced p.offset p.after
  offset := byteLength (respacing.respaced 0 p.before.reverse).reverse
  offset_eq := rfl

section

variable {respacing : Respacing} {p q : Place}

theorem source_respace (respacing : Respacing) (p : Place) :
    (p.respace respacing).source = respacing.respaced 0 p.source := by
  rw [source, source, Respacing.respaced_append, Text.byteLength_reverse, Nat.zero_add, ← offset_eq p,
    respace, List.reverse_reverse]

theorem Reads.respace (respacing : Respacing) {chars : List Char} (h : p.Reads chars q) :
    (p.respace respacing).Reads (respacing.respaced p.offset chars) (q.respace respacing) := by
  refine ⟨?_, ?_⟩
  · rw [Place.respace, Place.respace, h.after_eq, Respacing.respaced_append, h.offset_eq]
  · simp only [Place.respace]
    rw [h.before_eq, List.reverse_append, List.reverse_reverse, Respacing.respaced_append,
      List.reverse_append, Text.byteLength_reverse, Nat.zero_add, ← Place.offset_eq p]

theorem advanceWhile_respace {test : Char → Bool}
    (uniform : ∀ c, Margin.isMarginChar c = true → test c = test '\n') (p : Place) :
    (p.respace respacing).advanceWhile test = (p.advanceWhile test).respace respacing := by
  have reads := reads_advanceWhile (p.respace respacing) test
  have run : (p.respace respacing).after.takeWhile test =
      respacing.respaced p.offset (p.after.takeWhile test) :=
    Respacing.takeWhile_respaced uniform _ _
  rw [run] at reads
  exact reads.unique ((reads_advanceWhile p test).respace respacing)

theorem advanceBy_respace {n : Nat} (spares : respacing.Spares p.offset (p.after.take n)) :
    (p.respace respacing).advanceBy n = (p.advanceBy n).respace respacing := by
  have reads := reads_advanceBy (p.respace respacing) n
  have moved := (reads_advanceBy p n).respace respacing
  have front : (p.respace respacing).after.take n = p.after.take n :=
    Respacing.take_respaced_of_spares spares
  rw [front] at reads
  rw [Respacing.respaced_of_spares spares] at moved
  exact reads.unique moved

theorem atEnd_respace (respacing : Respacing) (p : Place) :
    (p.respace respacing).atEnd = p.atEnd :=
  Respacing.isEmpty_respaced p.offset p.after

theorem lookahead_respace (visible : ∀ c ∈ p.lookahead, Margin.isMarginChar c = false) :
    (p.respace respacing).lookahead = p.lookahead :=
  Respacing.head?_respaced visible p.offset

theorem lookahead_respace_eq_some_iff {c : Char} (visible : Margin.isMarginChar c = false) :
    (p.respace respacing).lookahead = some c ↔ p.lookahead = some c :=
  Respacing.head?_respaced_eq_some_iff visible p.offset p.after

theorem advance_respace {c : Char} (next : p.lookahead = some c)
    (visible : Margin.isMarginChar c = false) :
    (p.respace respacing).advance = p.advance.respace respacing := by
  have spares : respacing.Spares p.offset (p.after.take 1) := by
    refine Respacing.spares_of_visible ?_
    intro d member
    rw [lookahead_eq_some_iff.1 next, List.take_succ_cons, List.take_zero,
      List.mem_singleton] at member
    rw [member]
    exact visible
  exact advanceBy_respace spares

/-! ## Margins -/

theorem lineHead_respace (respacing : Respacing) (p : Place) :
    (p.respace respacing).lineHead = p.lineHead.respace respacing :=
  advanceWhile_respace (fun _ margin => margin) p

theorem margin_respace (respacing : Respacing) (p : Place) :
    (p.respace respacing).margin = p.margin := by
  have run : (p.respace respacing).after.takeWhile Margin.isMarginChar =
      respacing.respaced p.offset (p.after.takeWhile Margin.isMarginChar) :=
    Respacing.takeWhile_respaced (fun _ margin => margin) _ _
  rw [margin, margin, run]
  exact Respacing.foldl_extend_respaced _ _ _

/-! ## The host -/

theorem acceptance_respace (policy : Policy) (respacing : Respacing) (p : Place) :
    policy.acceptance (p.respace respacing) = policy.acceptance p := by
  have behind : Policy.isInsideContinuation (p.respace respacing) = Policy.isInsideContinuation p := by
    rw [Policy.isInsideContinuation, Policy.isInsideContinuation, respace,
      Respacing.find?_reverse_respaced]
  cases policy with
  | permissive => rfl
  | heuristic => rw [Policy.acceptance, Policy.acceptance, behind]

theorem skipBlanks_respace (respacing : Respacing) (p : Place) :
    (p.respace respacing).advanceWhile Text.isBlank =
      (p.advanceWhile Text.isBlank).respace respacing := by
  refine advanceWhile_respace ?_ p
  intro c margin
  rw [isBlank_of_isMarginChar margin]
  rfl

/-- A run of characters that are not blank has no margin characters. -/
theorem readRun_respace {test : Char → Bool} (visible : ∀ c, test c = true → Text.isBlank c = false)
    (respacing : Respacing) (p : Place) :
    (p.respace respacing).advanceWhile test = (p.advanceWhile test).respace respacing := by
  have fails {c : Char} (margin : Margin.isMarginChar c = true) : test c = false := by
    cases passes : test c with
    | false => rfl
    | true => cases (visible c passes).symm.trans (isBlank_of_isMarginChar margin)
  refine advanceWhile_respace ?_ p
  intro c margin
  rw [fails margin, fails (by rfl)]

theorem chunkEnd_respace (visible : ∀ c ∈ p.lookahead, Text.isBlank c = false) :
    (p.respace respacing).chunkEnd = p.chunkEnd.respace respacing := by
  have no_margin : ∀ c ∈ p.lookahead, Margin.isMarginChar c = false := by
    intro c next
    cases margin : Margin.isMarginChar c with
    | false => rfl
    | true => cases (visible c next).symm.trans (isBlank_of_isMarginChar margin)
  rw [chunkEnd, chunkEnd, lookahead_respace no_margin]
  cases next : p.lookahead with
  | none => rfl
  | some c =>
      have words := readRun_respace (fun _ word => isBlank_eq_false_of_isWordChar word) respacing p
      have operators :=
        readRun_respace (fun _ operator => isBlank_eq_false_of_isOperatorChar operator) respacing p
      simp only [words, operators, advance_respace next (no_margin c next)]
      split
      · rfl
      · split <;> rfl

end

end Place

end Offside
