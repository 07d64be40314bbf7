/-!
# Diagnostics

What a fault tells its reader: a sentence, a code to search for, and where they are known a hint,
the places in the source it concerns and the fault behind it.
-/

namespace Offside

structure Label where
  text : String
  offset : Nat
  size : Nat
  deriving DecidableEq, Repr

structure Diagnostic where
  message : String
  code : String
  help : Option String := none
  labels : List Label := []
  /-- The message of the fault that led to this one. -/
  cause : Option String := none
  deriving DecidableEq, Repr

end Offside
