import Offside.Reading
import Offside.Span
import Offside.Text.Blank

/-!
# Cursors

A cursor is a place with the marks of the attempt under way: where the attempt began, where its
token starts and where it ends. An attempt ends by taking the token (`commit`) or by going back
(`rollback`); both begin a new one.
-/

namespace Offside

structure Cursor where
  /-- Where the attempt began. -/
  origin : Place
  tokenStart : Place
  /-- How far the text was read. -/
  here : Place
  /-- The marked end of the token; without one the token ends at `here`. -/
  markedEnd : Option Place

namespace Cursor

/-- A new attempt at `p`. -/
def ofPlace (p : Place) : Cursor where
  origin := p
  tokenStart := p
  here := p
  markedEnd := none

/-- Begins a new attempt where the cursor stands. -/
def begin (cursor : Cursor) : Cursor :=
  ofPlace cursor.here

/-- Reads one character as part of the token. -/
def advance (cursor : Cursor) : Cursor :=
  { cursor with here := cursor.here.advance }

/-- Reads one character in front of the token. -/
def skip (cursor : Cursor) : Cursor :=
  { cursor with here := cursor.here.advance, tokenStart := cursor.here.advance }

/-- Marks the end of the token. -/
def markEnd (cursor : Cursor) : Cursor :=
  { cursor with markedEnd := some cursor.here }

/-- The place at which the token ends. -/
def stop (cursor : Cursor) : Place :=
  cursor.markedEnd.getD cursor.here

/-- The token's bytes. A token that ends in front of its start is empty at its end. -/
def span (cursor : Cursor) : Span :=
  ⟨min cursor.tokenStart.offset cursor.stop.offset, cursor.stop.offset⟩

/-- Takes the token and begins a new attempt behind it. -/
def commit (cursor : Cursor) : Span × Cursor :=
  (cursor.span, ofPlace cursor.stop)

/-- Gives the attempt up and begins a new one at the same place. -/
def rollback (cursor : Cursor) : Cursor :=
  ofPlace cursor.origin

/-- Skips blank characters between attempts. -/
def skipBlanks (cursor : Cursor) : Cursor :=
  ofPlace (cursor.here.advanceWhile Text.isBlank)

/-- Reads on up to the next blank character. -/
def advanceToBlank (cursor : Cursor) : Cursor :=
  { cursor with here := cursor.here.advanceWhile fun c => !Text.isBlank c }

/-- Scans as part of the attempt under way. The start of the token moves only if the scan skipped a
margin. -/
def scan (cursor : Cursor) (state : State) (accepts : Acceptance) : Reading × Cursor :=
  let reading := state.scan accepts cursor.here
  let start := if reading.head.offset = cursor.here.offset then cursor.tokenStart else reading.head
  (reading,
   { cursor with tokenStart := start, here := reading.reached, markedEnd := some reading.stop })

/-- One full attempt: scans where the cursor stands, then takes the token or goes back. -/
def attempt (cursor : Cursor) (state : State) (accepts : Acceptance) :
    Reading × Option Span × Cursor :=
  let (reading, scanned) := cursor.begin.scan state accepts
  match reading.outcome with
  | .ok _ =>
      let (span, after) := scanned.commit
      (reading, some span, after)
  | .error _ => (reading, none, scanned.rollback)

end Cursor

end Offside
