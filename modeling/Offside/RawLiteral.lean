import Offside.Place.Order

/-!
# Raw string literals

`r"…"`, `r#"…"#`, `r##"…"##` and so on. The literal ends at the first quote that is followed by as
many `#` as stand in front of the opening quote. A quote followed by fewer is content, and so are
the `#` after it. The `#` are counted in 32 bits.
-/

namespace Offside

/-- A count in 32 bits: behind `2 ^ 32 - 1` it is 0 again. -/
instance wordOfCount : Coe Nat UInt32 where
  coe := UInt32.ofNat

namespace RawLiteral

inductive Result
  /-- The literal ends in front of `stop`. -/
  | closed (stop : Place)
  /-- No quote follows the `r` and its `#`. -/
  | absent (reached : Place)
  /-- The text ends inside the literal. -/
  | unterminated (pounds : UInt32) (reached : Place)

/-- How much of a closing delimiter has just been read: `none` if nothing, else the number of `#`
after the quote. -/
abbrev Delimiter := Option UInt32

def Delimiter.read (delimiter : Delimiter) (c : Char) : Delimiter :=
  if c = '"' then
    some 0
  else if c = '#' then
    delimiter.map (· + 1)
  else
    none

/-- Counts the characters of a literal's content and closing delimiter. -/
def bodyLength? (pounds : UInt32) (delimiter : Delimiter) (length : Nat) :
    List Char → Option Nat
  | [] => if delimiter = some pounds then some length else none
  | c :: rest =>
      if delimiter = some pounds then
        some length
      else
        bodyLength? pounds (delimiter.read c) (length + 1) rest

/-- Reads a literal whose `r` is the next character. -/
def read (p : Place) : Result :=
  let signs := p.advance
  let opening := signs.advanceWhile (· == '#')
  let pounds : UInt32 := (signs.after.takeWhile (· == '#')).length
  if opening.lookahead = some '"' then
    let body := opening.advance
    match bodyLength? pounds none 0 body.after with
    | some length => .closed (body.advanceBy length)
    | none => .unterminated pounds (body.advanceWhile fun _ => true)
  else
    .absent opening

theorem advance_le_of_read_eq_closed {p stop : Place} (h : read p = .closed stop) :
    p.advance ≤ stop := by
  unfold read at h
  dsimp only at h
  split at h
  · split at h
    · cases h
      exact Place.le_trans (Place.le_advanceWhile _ _)
        (Place.le_trans (Place.le_advance _) (Place.le_advanceBy _ _))
    · cases h
  · cases h

end RawLiteral
end Offside
