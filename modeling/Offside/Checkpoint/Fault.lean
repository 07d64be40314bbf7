import Offside.Diagnostic

/-!
# Faults of saved states

Why a state could not be written to bytes or read from them.
-/

namespace Offside
namespace Checkpoint

inductive Fault
  /-- A buffer of `capacity` bytes has no room for the `header` bytes that every state takes. -/
  | noRoom (capacity header : Nat)
  | shortHeader (size header : Nat)
  /-- The bytes behind the header are no whole number of levels. -/
  | strayBytes (trailing : Nat)
  | badFlag (offset value : Nat)
  deriving DecidableEq, Repr

namespace Fault

def message : Fault → String
  | noRoom capacity header =>
      s!"serialization buffer of {capacity} bytes cannot hold the {header}-byte header"
  | shortHeader size header =>
      s!"serialized state of {size} bytes is shorter than the {header}-byte header"
  | strayBytes trailing => s!"serialized layout levels end with {trailing} stray bytes"
  | badFlag offset value => s!"flag byte at offset {offset} is {value}, expected 0 or 1"

def code : Fault → String
  | noRoom .. => "kokascan::state::buffer_too_small"
  | shortHeader .. => "kokascan::state::truncated_header"
  | strayBytes .. => "kokascan::state::misaligned_levels"
  | badFlag .. => "kokascan::state::invalid_flag"

def diagnostic (fault : Fault) : Diagnostic where
  message := fault.message
  code := fault.code

end Fault

end Checkpoint
end Offside
