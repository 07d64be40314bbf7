import Offside.Checkpoint.Format
import Offside.Fault
import Offside.Lexeme

/-!
# Streams

What a whole session produced: its lexemes, and the checkpoint it began with followed by one for
each external token.
-/

namespace Offside

/-- A saved state and the byte offset to go on from. -/
structure Checkpoint where
  offset : Nat
  state : Checkpoint.Bytes
  deriving DecidableEq, Repr

namespace Checkpoint

/-- The start of a text with a fresh state. -/
def initial : Checkpoint := ⟨0, []⟩

/-- Looks for a fault in a checkpoint: its bytes are no state, or another state's. No bytes at all
are never at fault. -/
def check (capacity : Nat) (checkpoint : Checkpoint) : Logged (Option Offside.Fault) :=
  if checkpoint.state.isEmpty then
    ⟨none, []⟩
  else
    match decode checkpoint.state with
    | .error fault => ⟨some (.state fault), []⟩
    | .ok state =>
        let saved := save capacity state
        match saved.value with
        | .error fault => ⟨some (.state fault), saved.notices⟩
        | .ok bytes =>
            if bytes = checkpoint.state then
              ⟨none, saved.notices⟩
            else
              ⟨some (.unstable checkpoint.offset), saved.notices⟩

end Checkpoint

structure Stream where
  lexemes : List Lexeme
  checkpoints : List Checkpoint
  deriving DecidableEq, Repr

namespace Stream

/-- The external tokens of the stream. -/
def externals (stream : Stream) : List (External × Span) :=
  stream.lexemes.filterMap fun lexeme => lexeme.kind.token?.map (·, lexeme.span)

/-- The lexemes on one line. -/
def compact (stream : Stream) (source : String) : String :=
  " ".intercalate (stream.lexemes.map (·.render source))

/-- Looks for the first checkpoint at fault: one that changes when it is restored and saved again in
`capacity` bytes. -/
def verify (stream : Stream) (capacity : Nat) : Logged (Option Fault) :=
  let sound := stream.checkpoints.takeWhile fun checkpoint =>
    (checkpoint.check capacity).value.isNone
  let suspect := (stream.checkpoints.drop sound.length).head?
  { value := suspect.bind fun checkpoint => (checkpoint.check capacity).value
    notices := (sound ++ suspect.toList).flatMap fun checkpoint =>
      (checkpoint.check capacity).notices }

end Stream

end Offside
