import Offside.Place
import Offside.Text.Alphanumeric

/-!
# Chunks

What a host reads where no external token applies: a run of word characters, a run of operator
characters, or one character of any other kind.
-/

namespace Offside
namespace Chunk

def isWordChar (c : Char) : Bool :=
  Text.isAlphanumeric c || c == '_' || c == '\''

def operators : List Char :=
  ['!', '$', '%', '&', '*', '+', '-', '.', '/', ':', '<', '=', '>', '?', '@', '\\', '^', '|', '~',
   '#']

def isOperatorChar (c : Char) : Bool :=
  operators.contains c

end Chunk

namespace Place

/-- The place behind the chunk at `p`. -/
def chunkEnd (p : Place) : Place :=
  match p.lookahead with
  | some c =>
      if Chunk.isWordChar c then
        p.advanceWhile Chunk.isWordChar
      else if Chunk.isOperatorChar c then
        p.advanceWhile Chunk.isOperatorChar
      else
        p.advance
  | none => p

/-- A chunk is never empty before the end of the text. -/
theorem length_after_chunkEnd_lt {p : Place} (h : p.atEnd = false) :
    p.chunkEnd.after.length < p.after.length := by
  rcases p with ⟨before, _ | ⟨c, rest⟩, offset, offset_eq⟩
  · simp [atEnd] at h
  · have skips (f : Char → Bool) (hc : f c = true) :
        ((c :: rest).dropWhile f).length < (c :: rest).length := by
      rw [List.dropWhile_cons_of_pos hc]
      exact Nat.lt_succ_of_le (List.dropWhile_suffix f).length_le
    simp only [chunkEnd, lookahead, List.head?_cons]
    split
    · simpa using skips _ ‹_›
    · split
      · simpa using skips _ ‹_›
      · simp

end Place

end Offside
