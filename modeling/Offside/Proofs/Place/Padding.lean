import Offside.Proofs.Place.Respacing

/-!
# Padded texts

A text is padded if margin characters are put in front of some of its line breaks: blanks that trail a
line, a carriage return, or whole blank lines. So each of these line breaks is replaced by margin characters
that end in a line break, which is a respacing that keeps all columns. Main definitions and statements:

* `Padding` — what is put in front of the line breaks; `Padding.padded` — the padded text.
* `Padding.respacing`, `Padding.padded_eq_respaced` — padding as respacing.
* `Place.pad` — the same place in the padded text; `Place.offset_pad` — how far it is moved.
* `Padding.column_respace` — columns are kept.
-/

namespace Offside

open Text (byteLength)

/-- What is put in front of each line break of a text, by the byte offset of the line break. -/
structure Padding where
  fill : Nat → List Char
  isMarginChar_of_mem : ∀ offset, ∀ c ∈ fill offset, Margin.isMarginChar c = true

namespace Padding

variable (padding : Padding)

/-- What is put in front of a character. -/
def before (offset : Nat) (c : Char) : List Char :=
  if c = '\n' then padding.fill offset else []

/-- The padded text; `offset` bytes stand in front of the text itself. -/
def padded : Nat → List Char → List Char
  | _, [] => []
  | offset, c :: rest => padding.before offset c ++ c :: padded (offset + c.utf8Size) rest

/-- The number of bytes that are put into a text. -/
def added : Nat → List Char → Nat
  | _, [] => 0
  | offset, c :: rest => byteLength (padding.before offset c) + added (offset + c.utf8Size) rest

/-- Nothing is put into the text. -/
def Spares : Nat → List Char → Prop
  | _, [] => True
  | offset, c :: rest => padding.before offset c = [] ∧ Spares (offset + c.utf8Size) rest

theorem before_of_ne {c : Char} (other : c ≠ '\n') (offset : Nat) : padding.before offset c = [] := by
  rw [before, if_neg other]

/-! ## Padding as respacing -/

/-- A line break is replaced by what is put in front of it and the line break itself. -/
def respacing : Respacing where
  image offset c := padding.before offset c ++ [c]
  image_of_visible offset c visible := by
    have other : c ≠ '\n' := by
      rintro rfl
      cases visible
    rw [padding.before_of_ne other, List.nil_append]
  image_ne_nil offset c := List.append_ne_nil_of_right_ne_nil _ (List.cons_ne_nil c [])
  isMarginChar_of_mem offset c margin d member := by
    rcases List.mem_append.1 member with filled | same
    · rw [before] at filled
      split at filled
      · exact padding.isMarginChar_of_mem offset d filled
      · cases filled
    · rwa [List.mem_singleton.1 same]
  extend_image offset c margin := by
    rw [List.foldl_append]
    -- A line break starts the margin anew, whatever came before it.
    by_cases line_break : c = '\n'
    · rw [line_break]
      rfl
    · rw [padding.before_of_ne line_break]
      rfl

theorem image_respacing (offset : Nat) (c : Char) :
    padding.respacing.image offset c = padding.before offset c ++ [c] :=
  rfl

theorem padded_eq_respaced (offset : Nat) (text : List Char) :
    padding.padded offset text = padding.respacing.respaced offset text := by
  induction text generalizing offset with
  | nil => rfl
  | cons c rest ih =>
      rw [Padding.padded, Respacing.respaced, image_respacing, List.append_assoc, ih]
      rfl

theorem keeps_of_fill {byte : Nat} (empty : padding.fill byte = []) :
    padding.respacing.Keeps byte := by
  intro c
  simp [image_respacing, before, empty]

/-- Neither what is put in front of a line break nor the line break stands in the line behind them. -/
theorem column_respace (p : Place) : (p.respace padding.respacing).column = p.column := by
  have same_line (chars : List Char) :
      (padding.respacing.respaced 0 chars.reverse).reverse.takeWhile (· != '\n') =
        chars.takeWhile (· != '\n') := by
    induction chars with
    | nil => rfl
    | cons c rest ih =>
        rw [Respacing.reverse_respaced_reverse_cons, image_respacing]
        by_cases line_break : c = '\n'
        · simp [line_break]
        · simp [padding.before_of_ne line_break, line_break, ih]
  rw [Place.column, Place.column, Place.respace, same_line]

/-! ## Added bytes -/

section

variable {padding} {offset : Nat} {text : List Char}

theorem added_append (offset : Nat) (front rest : List Char) :
    padding.added offset (front ++ rest) =
      padding.added offset front + padding.added (offset + byteLength front) rest := by
  induction front generalizing offset with
  | nil => simp [added]
  | cons c front ih =>
      simp only [List.cons_append, added, ih, Text.byteLength_cons, Nat.add_assoc]

theorem byteLength_padded (offset : Nat) (text : List Char) :
    byteLength (padding.padded offset text) = byteLength text + padding.added offset text := by
  induction text generalizing offset with
  | nil => rfl
  | cons c rest ih =>
      simp only [Padding.padded, added, Text.byteLength_append, Text.byteLength_cons, ih]
      omega

/-- Nothing is put into a part of the text in which nothing is put in front of any byte. -/
theorem spares_of_fill (empty : ∀ byte, offset ≤ byte → byte < offset + byteLength text →
    padding.fill byte = []) : padding.Spares offset text := by
  induction text generalizing offset with
  | nil => trivial
  | cons c rest ih =>
      have wide := c.utf8Size_pos
      rw [Text.byteLength_cons] at empty
      refine ⟨?_, ih ?_⟩
      · rw [before]
        split
        · exact empty offset (Nat.le_refl _) (by omega)
        · rfl
      · intro byte from_here within
        exact empty byte (by omega) (by omega)

end

end Padding

namespace Place

/-- The same place in the padded text: in front of what is put in front of a line break there. -/
def pad (padding : Padding) (p : Place) : Place where
  before := (padding.padded 0 p.before.reverse).reverse
  after := padding.padded p.offset p.after
  offset := byteLength (padding.padded 0 p.before.reverse).reverse
  offset_eq := rfl

theorem pad_eq_respace (padding : Padding) (p : Place) : p.pad padding = p.respace padding.respacing := by
  ext1
  · exact congrArg List.reverse (padding.padded_eq_respaced 0 p.before.reverse)
  · exact padding.padded_eq_respaced p.offset p.after

theorem offset_pad (padding : Padding) (p : Place) :
    (p.pad padding).offset = p.offset + padding.added 0 p.before.reverse := by
  calc
    (p.pad padding).offset = byteLength (padding.padded 0 p.before.reverse) :=
      Text.byteLength_reverse _
    _ = byteLength p.before.reverse + padding.added 0 p.before.reverse :=
      Padding.byteLength_padded 0 _
    _ = p.offset + padding.added 0 p.before.reverse := by
      rw [Text.byteLength_reverse, Place.offset_eq p]

end Place

end Offside
