import Offside.Chunk
import Offside.Place.Order
import Offside.Reading
import Offside.Stream

/-!
# Turns of a session

A session hands a text through the scanner to its end. Each turn is one scan: if a token comes out,
the state is saved behind it; if not, the host skips blanks and reads a chunk by itself.
-/

namespace Offside

structure Config where
  policy : Policy := .permissive
  /-- The bytes for each checkpoint. -/
  capacity : Nat := Checkpoint.defaultCapacity
  deriving DecidableEq, Repr, Inhabited

structure Session where
  place : Place
  state : State
  /-- The start of the token of the turn before and the state saved behind it, if it was a token. -/
  previous : Option (Nat × Checkpoint.Bytes)

inductive Turn
  | token (lexeme : Lexeme) (saved : Checkpoint) (next : Session)
  | text (lexeme : Lexeme) (next : Session)
  | finished
  | failed (fault : Fault)

namespace Turn

/-- The session after the turn; `none` if the turn was the last. -/
def next? : Turn → Option Session
  | token _ _ next => some next
  | text _ next => some next
  | finished => none
  | failed _ => none

def lexeme? : Turn → Option Lexeme
  | token lexeme _ _ => some lexeme
  | text lexeme _ => some lexeme
  | finished => none
  | failed _ => none

def checkpoint? : Turn → Option Checkpoint
  | token _ saved _ => some saved
  | _ => none

def fault? : Turn → Option Fault
  | failed fault => some fault
  | _ => none

end Turn

namespace Session

/-- A session that begins at the start of a text. -/
def fresh (text : List Char) : Session :=
  ⟨.start text, .fresh, none⟩

/-- What becomes of a token: it is recorded with its checkpoint, unless the state cannot be saved or
the session makes no headway. -/
def takeToken (session : Session) (token : External) (span : Span) (stop : Place) (state : State)
    (saved : Except Checkpoint.Fault Checkpoint.Bytes) : Turn :=
  match saved with
  | .error fault => .failed (.state fault)
  | .ok bytes =>
      if span.isEmpty ∧ session.previous = some (span.start, bytes) then
        .failed (.standstill token span.start)
      else
        .token ⟨.external token, span⟩ ⟨span.stop, bytes⟩
          ⟨stop, state, some (span.start, bytes)⟩

/-- What becomes of a refusal: the host skips blanks and reads a chunk, unless nothing is left or
the refusal is final. -/
def takeText (session : Session) (refusal : Refusal) : Turn :=
  if refusal.isRecoverable then
    let start := session.place.advanceWhile Text.isBlank
    if start.atEnd then
      .finished
    else
      let stop := start.chunkEnd
      .text ⟨.text, ⟨start.offset, stop.offset⟩⟩ ⟨stop, session.state, none⟩
  else
    .failed (.refused session.place.offset refusal)

def turn (config : Config) (session : Session) : Logged Turn :=
  let reading := session.state.scan (config.policy.acceptance session.place) session.place
  match reading.outcome with
  | .ok (token, state) =>
      let saved := Checkpoint.save config.capacity state
      { value := session.takeToken token reading.span reading.stop state saved.value
        notices := reading.notices ++ saved.notices }
  | .error refusal => ⟨session.takeText refusal, reading.notices⟩

end Session

end Offside
