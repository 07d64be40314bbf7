import Offside.Text.ByteLength

/-!
# Places in a text

A place is a text cut between two characters: what was read, nearest character first, and what is
left. Reading moves characters from the second part to the first, so a place always falls between
characters and carries its whole text with it. Main statements:

* `source_advance`, `source_advanceWhile` — reading does not change the text.
* `after_advanceWhile` — what is left after a run of characters.
* `at?_eq_some_iff` — an offset is a place exactly if the text can be cut there.
-/

namespace Offside

open Text (byteLength byteLength_cons)

structure Place where
  /-- The characters in front of the place, nearest first. -/
  before : List Char
  /-- The characters after the place. -/
  after : List Char
  /-- The number of bytes in front of the place. -/
  offset : Nat
  offset_eq : offset = byteLength before

namespace Place

@[ext]
theorem ext {p q : Place} (before : p.before = q.before) (after : p.after = q.after) : p = q := by
  cases p with
  | mk _ _ _ hp => cases q with
    | mk _ _ _ hq => simp_all

/-- The whole text. -/
def source (p : Place) : List Char :=
  p.before.reverse ++ p.after

/-- The place in front of a text. -/
def start (text : List Char) : Place where
  before := []
  after := text
  offset := 0
  offset_eq := rfl

/-! ## Looking -/

/-- The next character. -/
def lookahead (p : Place) : Option Char :=
  p.after.head?

def atEnd (p : Place) : Bool :=
  p.after.isEmpty

/-- The number of characters between the last line break in front of the place and the place. -/
def column (p : Place) : Nat :=
  (p.before.takeWhile (· != '\n')).length

/-! ## Reading -/

private def advanceWhileFrom (continues : Char → Bool) :
    (after before : List Char) → (offset : Nat) → offset = byteLength before → Place
  | [], before, offset, offset_eq => ⟨before, [], offset, offset_eq⟩
  | c :: rest, before, offset, offset_eq =>
      if continues c then
        advanceWhileFrom continues rest (c :: before) (offset + c.utf8Size)
          (by rw [byteLength_cons, offset_eq, Nat.add_comm])
      else
        ⟨before, c :: rest, offset, offset_eq⟩

/-- Reads on while the next character satisfies `continues`. -/
def advanceWhile (p : Place) (continues : Char → Bool) : Place :=
  advanceWhileFrom continues p.after p.before p.offset p.offset_eq

/-- Reads one character; at the end of the text there is none to read. -/
def advance : Place → Place
  | ⟨before, [], offset, offset_eq⟩ => ⟨before, [], offset, offset_eq⟩
  | ⟨before, c :: rest, offset, offset_eq⟩ =>
      ⟨c :: before, rest, offset + c.utf8Size, by rw [byteLength_cons, offset_eq, Nat.add_comm]⟩

/-- Reads `n` characters, or all that are left. -/
def advanceBy (p : Place) : Nat → Place
  | 0 => p
  | n + 1 => p.advance.advanceBy n

private def seek? (target : Nat) :
    (after before : List Char) → (offset : Nat) → offset = byteLength before → Option Place
  | after, before, offset, offset_eq =>
      if offset = target then
        some ⟨before, after, offset, offset_eq⟩
      else
        match after with
        | [] => none
        | c :: rest =>
            if offset < target then
              seek? target rest (c :: before) (offset + c.utf8Size)
                (by rw [byteLength_cons, offset_eq, Nat.add_comm])
            else
              none

/-- The place at a byte offset of a text; `none` inside a character and beyond the end. -/
def at? (text : List Char) (target : Nat) : Option Place :=
  seek? target text [] 0 rfl

/-! ## What reading keeps -/

@[simp]
theorem after_advance (p : Place) : p.advance.after = p.after.tail := by
  rcases p with ⟨_, _ | _, _, _⟩ <;> rfl

@[simp]
theorem before_advance (p : Place) :
    p.advance.before = (p.after.take 1).reverse ++ p.before := by
  rcases p with ⟨_, _ | _, _, _⟩ <;> rfl

@[simp]
theorem source_advance (p : Place) : p.advance.source = p.source := by
  rcases p with ⟨_, _ | _, _, _⟩ <;> simp [advance, source]

private theorem advanceWhileFrom_parts (continues : Char → Bool) (after before : List Char)
    (offset : Nat) (offset_eq : offset = byteLength before) :
    (advanceWhileFrom continues after before offset offset_eq).after = after.dropWhile continues ∧
      (advanceWhileFrom continues after before offset offset_eq).before =
        (after.takeWhile continues).reverse ++ before := by
  induction after generalizing before offset with
  | nil => simp [advanceWhileFrom]
  | cons c rest ih =>
      by_cases hc : continues c
      · simp [advanceWhileFrom, hc, ih]
      · simp [advanceWhileFrom, hc]

@[simp]
theorem after_advanceWhile (p : Place) (continues : Char → Bool) :
    (p.advanceWhile continues).after = p.after.dropWhile continues :=
  (advanceWhileFrom_parts continues p.after p.before p.offset p.offset_eq).1

@[simp]
theorem before_advanceWhile (p : Place) (continues : Char → Bool) :
    (p.advanceWhile continues).before = (p.after.takeWhile continues).reverse ++ p.before :=
  (advanceWhileFrom_parts continues p.after p.before p.offset p.offset_eq).2

@[simp]
theorem source_advanceWhile (p : Place) (continues : Char → Bool) :
    (p.advanceWhile continues).source = p.source := by
  simp [source]

@[simp]
theorem after_advanceBy (p : Place) (n : Nat) : (p.advanceBy n).after = p.after.drop n := by
  induction n generalizing p with
  | zero => simp [advanceBy]
  | succ n ih => simp [advanceBy, ih]

@[simp]
theorem source_advanceBy (p : Place) (n : Nat) : (p.advanceBy n).source = p.source := by
  induction n generalizing p with
  | zero => rfl
  | succ n ih => simp [advanceBy, ih]

private theorem of_seek?_eq_some {target : Nat} {after before : List Char} {offset : Nat}
    {offset_eq : offset = byteLength before} {p : Place}
    (h : seek? target after before offset offset_eq = some p) :
    p.source = before.reverse ++ after ∧ p.offset = target := by
  induction after generalizing before offset with
  | nil =>
      unfold seek? at h
      split at h
      · cases h; exact ⟨rfl, ‹_›⟩
      · cases h
  | cons c rest ih =>
      unfold seek? at h
      split at h
      · cases h; exact ⟨rfl, ‹_›⟩
      · dsimp only at h
        split at h
        · simpa using ih h
        · cases h

private theorem seek?_eq_some (p : Place) (ahead before : List Char) (offset : Nat)
    (offset_eq : offset = byteLength before) (split : ahead.reverse ++ before = p.before) :
    seek? p.offset (ahead ++ p.after) before offset offset_eq = some p := by
  -- The search passes over `ahead`, and the offsets on the way all lie in front of the target.
  induction ahead generalizing before offset with
  | nil =>
      have same : offset = p.offset := by rw [offset_eq, p.offset_eq, ← split]; simp
      have found : (⟨before, p.after, offset, offset_eq⟩ : Place) = p :=
        Place.ext (by simpa using split) rfl
      rw [List.nil_append]
      unfold seek?
      rw [if_pos same, found]
  | cons c rest ih =>
      have ahead : offset < p.offset := by
        have := c.utf8Size_pos
        rw [p.offset_eq, ← split, offset_eq]
        simp
        omega
      rw [List.cons_append]
      unfold seek?
      rw [if_neg (Nat.ne_of_lt ahead)]
      simp only [ahead, if_true]
      exact ih _ _ _ (by simpa using split)

theorem at?_eq_some_iff {text : List Char} {target : Nat} {p : Place} :
    at? text target = some p ↔ p.source = text ∧ p.offset = target := by
  constructor
  · intro h
    simpa using of_seek?_eq_some h
  · rintro ⟨rfl, rfl⟩
    exact seek?_eq_some p p.before.reverse [] 0 rfl (by simp)

/-- A text has one place at most for an offset. -/
theorem eq_of_source_of_offset {p q : Place} (same_text : p.source = q.source)
    (same_offset : p.offset = q.offset) : p = q := by
  have found : at? q.source q.offset = some p := at?_eq_some_iff.2 ⟨same_text, same_offset⟩
  rw [at?_eq_some_iff.2 ⟨rfl, rfl⟩] at found
  exact (Option.some.inj found).symm

theorem lookahead_eq_some_iff {p : Place} {c : Char} :
    p.lookahead = some c ↔ p.after = c :: p.advance.after := by
  rcases p with ⟨_, _ | ⟨d, rest⟩, _, _⟩ <;> simp [lookahead, advance]

theorem atEnd_iff {p : Place} : p.atEnd = true ↔ p.after = [] := by
  simp [atEnd]

end Place

end Offside
