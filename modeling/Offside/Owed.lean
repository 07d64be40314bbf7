import Offside.External

/-!
# Owed tokens

Leaving several blocks at once takes a closing brace and a separator for each of them, but a host
takes one token at a time. What it has not taken yet is owed. Braces go first while there are at
least as many of them as separators, so that a dedent reads `} ; } ; … } ;`.
-/

namespace Offside

structure Owed where
  closes : UInt32 := 0
  separators : UInt32 := 0
  /-- The last separator is not to be given out: the line continues the enclosing statement. -/
  dropsLast : Bool := false
  deriving DecidableEq, Repr, Inhabited

namespace Owed

def isSettled (owed : Owed) : Bool :=
  owed.closes == 0 && owed.separators == 0

/-- The number of tokens owed, the one to be dropped included. -/
def count (owed : Owed) : Nat :=
  owed.closes.toNat + owed.separators.toNat

/-- Owes a brace and a separator for each of `blocks` closed blocks. -/
def addBlocks (owed : Owed) (blocks : UInt32) : Owed :=
  { owed with closes := owed.closes + blocks, separators := owed.separators + blocks }

/-- Owes the brace that follows the separator in front of an explicit closing brace. -/
def addClose (owed : Owed) : Owed :=
  { owed with closes := owed.closes + 1 }

/-- Gives out the next token. -/
def next? (owed : Owed) : Option (External × Owed) :=
  if 0 < owed.closes ∧ owed.separators ≤ owed.closes then
    let rest := { owed with closes := owed.closes - 1 }
    if owed.separators = 1 ∧ owed.dropsLast then
      some (.closeBrace, { rest with separators := 0, dropsLast := false })
    else
      some (.closeBrace, rest)
  else if 0 < owed.separators then
    some (.semicolon, { owed with separators := owed.separators - 1 })
  else
    none

theorem next?_eq_none_iff (owed : Owed) : owed.next? = none ↔ owed.count = 0 := by
  unfold next? count
  simp only [UInt32.lt_iff_toNat_lt, UInt32.le_iff_toNat_le, UInt32.toNat_zero]
  split
  next positive =>
    have : owed.closes.toNat + owed.separators.toNat ≠ 0 := by omega
    split <;> simpa using this
  next =>
    split
    next positive =>
      have : owed.closes.toNat + owed.separators.toNat ≠ 0 := by omega
      simpa using this
    next => simpa using (by omega : owed.closes.toNat + owed.separators.toNat = 0)

theorem count_lt_of_next? {owed rest : Owed} {token : External}
    (h : owed.next? = some (token, rest)) : rest.count < owed.count := by
  have closes_pred (positive : 0 < owed.closes) :
      (owed.closes - 1).toNat = owed.closes.toNat - 1 :=
    UInt32.toNat_sub_of_le _ _ (UInt32.lt_iff_toNat_lt.1 positive)
  have separators_pred (positive : 0 < owed.separators) :
      (owed.separators - 1).toNat = owed.separators.toNat - 1 :=
    UInt32.toNat_sub_of_le _ _ (UInt32.lt_iff_toNat_lt.1 positive)
  unfold next? at h
  split at h
  next positive =>
    have some_close : 0 < owed.closes.toNat := UInt32.lt_iff_toNat_lt.1 positive.1
    dsimp only at h
    split at h
    · cases h
      simp only [count, closes_pred positive.1, UInt32.toNat_zero]
      omega
    · cases h
      simp only [count, closes_pred positive.1]
      omega
  next =>
    split at h
    next positive =>
      have some_separator : 0 < owed.separators.toNat := UInt32.lt_iff_toNat_lt.1 positive
      cases h
      simp only [count, separators_pred positive]
      omega
    next => cases h

end Owed

end Offside
