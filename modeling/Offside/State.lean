import Offside.Levels
import Offside.Owed

/-!
# Scanner state

Everything that a scanner remembers between two scans.
-/

namespace Offside

structure State where
  levels : Levels := []
  owed : Owed := {}
  /-- The terminator at the end of the input has been given out. -/
  terminated : Bool := false
  /-- An explicit opening brace was read; the next scan records the level of its block. -/
  awaitsLevel : Bool := false
  deriving DecidableEq, Repr, Inhabited

namespace State

/-- The state at the start of a text. -/
def fresh : State := {}

def depth (state : State) : Nat :=
  state.levels.length

/-- The state with its innermost `depth` levels only. -/
def truncate (state : State) (depth : Nat) : State :=
  { state with levels := state.levels.take depth }

/-- Records `level` for the block of an explicit opening brace, if one still waits for it. -/
def recordLevel (state : State) (level : Level) : State :=
  if state.awaitsLevel then
    { state with levels := level :: state.levels, awaitsLevel := false }
  else
    state

@[simp]
theorem awaitsLevel_recordLevel (state : State) (level : Level) :
    (state.recordLevel level).awaitsLevel = false := by
  unfold recordLevel
  split <;> simp_all

@[simp]
theorem owed_recordLevel (state : State) (level : Level) :
    (state.recordLevel level).owed = state.owed := by
  unfold recordLevel
  split <;> rfl

@[simp]
theorem terminated_recordLevel (state : State) (level : Level) :
    (state.recordLevel level).terminated = state.terminated := by
  unfold recordLevel
  split <;> rfl

end State

end Offside
