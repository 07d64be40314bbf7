import Offside.Levels
import Offside.Place

/-!
# Margins

The margin is the run of spaces, tabs and line breaks in front of a place. Two things of it matter:
whether it crosses a line break, and how far the line it ends in is indented. A carriage return
starts the count anew but is no line break.
-/

namespace Offside

structure Margin where
  /-- Whether the margin crosses a line feed. -/
  crossesLine : Bool
  indent : Level
  deriving DecidableEq, Repr

namespace Margin

def isMarginChar (c : Char) : Bool :=
  c == ' ' || c == '\t' || c == '\r' || c == '\n'

def empty : Margin := ⟨false, 0⟩

def extend (margin : Margin) (c : Char) : Margin :=
  if c = ' ' then
    { margin with indent := margin.indent.shift 1 }
  else if c = '\t' then
    { margin with indent := margin.indent.shift Level.tabWidth }
  else if c = '\n' then
    ⟨true, 0⟩
  else
    { margin with indent := 0 }

def ofChars (chars : List Char) : Margin :=
  chars.foldl extend empty

end Margin

namespace Place

/-- The place behind the margin, where a line's own text starts. -/
def lineHead (p : Place) : Place :=
  p.advanceWhile Margin.isMarginChar

def margin (p : Place) : Margin :=
  .ofChars (p.after.takeWhile Margin.isMarginChar)

end Place

end Offside
