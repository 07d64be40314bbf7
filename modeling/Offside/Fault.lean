import Offside.Checkpoint.Fault
import Offside.External
import Offside.Refusal

/-!
# Faults of sessions

Why a session stops before the end of its text, or cannot be taken up again.
-/

namespace Offside

inductive Fault
  /-- The scanner refused in a way that no other reading of the place can mend. -/
  | refused (offset : Nat) (refusal : Refusal)
  | state (fault : Checkpoint.Fault)
  /-- A token without width left place and state as they were. -/
  | standstill (token : External) (offset : Nat)
  /-- The offset of a checkpoint falls inside a character or beyond the end of the text. -/
  | misplaced (offset size : Nat)
  | unstable (offset : Nat)
  deriving DecidableEq, Repr

namespace Fault

def message : Fault → String
  | refused offset _ => s!"scanner rejected the call sequence at byte {offset}"
  | state fault => fault.message
  | standstill token offset =>
      "scanner returned `" ++ token.spelling ++
        s!"` at byte {offset} without consuming input or changing state"
  | misplaced offset size =>
      s!"checkpoint offset {offset} is not a character boundary of the {size}-byte source"
  | unstable offset =>
      s!"checkpoint at byte {offset} changes when restored and saved again"

def code : Fault → String
  | refused .. => "kokascan::driver::protocol"
  | state fault => fault.code
  | standstill .. => "kokascan::driver::stalled"
  | misplaced .. => "kokascan::driver::bad_checkpoint"
  | unstable .. => "kokascan::driver::checkpoint_mismatch"

def diagnostic (fault : Fault) : Diagnostic :=
  match fault with
  | refused offset refusal =>
      { message := fault.message
        code := fault.code
        labels := [⟨"scanner stopped here", offset, 0⟩]
        cause := some refusal.message }
  | state inner => inner.diagnostic
  | standstill _ offset =>
      { message := fault.message
        code := fault.code
        labels := [⟨"no progress here", offset, 0⟩] }
  | misplaced .. => { message := fault.message, code := fault.code }
  | unstable .. => { message := fault.message, code := fault.code }

end Fault

end Offside
