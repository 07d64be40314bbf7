/-!
# Layout levels

A level is the column at which the statements of a block start, in columns of one space. The levels
of the open blocks form a stack; here the innermost block comes first. Outside all blocks
statements start at column 0.
-/

namespace Offside

abbrev Level := UInt32

namespace Level

/-- The columns that a tab takes. -/
def tabWidth : Nat := 8

/-- The widest column that a level can hold. -/
def widest : Nat := UInt32.size - 1

/-- The level of a column. All columns beyond the widest share its level. -/
def ofColumn (column : Nat) : Level :=
  UInt32.ofNat (min column widest)

/-- Moves a level to the right, as far as levels go. -/
def shift (level : Level) (columns : Nat) : Level :=
  ofColumn (level.toNat + columns)

theorem toNat_ofColumn (column : Nat) : (ofColumn column).toNat = min column widest := by
  exact UInt32.toNat_ofNat_of_lt' (Nat.lt_of_le_of_lt (Nat.min_le_right ..) (by decide))

theorem toNat_shift (level : Level) (columns : Nat) :
    (shift level columns).toNat = min (level.toNat + columns) widest :=
  toNat_ofColumn _

end Level

/-- The levels of the open blocks, innermost first. -/
abbrev Levels := List Level

namespace Levels

/-- The level of the innermost block, or column 0 outside all blocks. -/
def innermost (levels : Levels) : Level :=
  levels.headD 0

/-- The number of innermost blocks whose levels are greater than `indent`. -/
def countAbove (levels : Levels) (indent : Level) : Nat :=
  (levels.takeWhile (indent < ·)).length

/-- Closes the innermost blocks whose levels are greater than `indent`. -/
def closeAbove (levels : Levels) (indent : Level) : Levels :=
  levels.dropWhile (indent < ·)

theorem countAbove_add_length_closeAbove (levels : Levels) (indent : Level) :
    levels.countAbove indent + (levels.closeAbove indent).length = levels.length := by
  rw [countAbove, closeAbove, ← List.length_append, List.takeWhile_append_dropWhile]

/-- What is left after closing blocks has no innermost level above the indentation. -/
theorem innermost_closeAbove_le (levels : Levels) (indent : Level) :
    (levels.closeAbove indent).innermost ≤ indent := by
  induction levels with
  | nil => exact UInt32.zero_le
  | cons level rest ih =>
      by_cases h : indent < level
      · simpa [closeAbove, h] using ih
      · simpa [closeAbove, innermost, h] using UInt32.not_lt.1 h

end Levels

end Offside
