import Offside.LineRule
import Offside.Margin
import Offside.RawLiteral
import Offside.Span

/-!
# Scanning

One scan decides the next external token at a place. In order:

1. a token that is still owed;
2. the off-side rule, if the margin crosses a line break;
3. the terminator, once, if only margin is left;
4. a token that is spelled out in the text.

Layout tokens have no width and stand behind the margin. What is read beyond the end of the token is
lookahead; it shows in `reached` alone.
-/

namespace Offside

/-- What one scan made of a place. -/
structure Reading where
  /-- The token with the state after it; a refusal leaves the state as it was. -/
  outcome : Except Refusal (External × State)
  /-- The place behind the skipped margin, where a token starts. -/
  head : Place
  /-- The end of the token. -/
  stop : Place
  /-- How far the text was read. -/
  reached : Place
  notices : List Notice

namespace Reading

/-- A token without width at `head`. -/
def inserted (token : External) (state : State) (head reached : Place)
    (notices : List Notice) : Reading where
  outcome := .ok (token, state)
  head := head
  stop := head
  reached := reached
  notices := notices

/-- A token that covers the text from `head` to `stop`. -/
def spelled (token : External) (state : State) (head stop : Place) : Reading where
  outcome := .ok (token, state)
  head := head
  stop := stop
  reached := stop
  notices := []

def refused (refusal : Refusal) (head reached : Place) : Reading where
  outcome := .error refusal
  head := head
  stop := head
  reached := reached
  notices := []

/-- The state after the scan of a scanner in `state`. -/
def next (reading : Reading) (state : State) : State :=
  match reading.outcome with
  | .ok (_, after) => after
  | .error _ => state

/-- The bytes of the token, for a scan that began a new attempt. -/
def span (reading : Reading) : Span :=
  ⟨reading.head.offset, reading.stop.offset⟩

/-- The notice that closes a scan. -/
def summary (reading : Reading) : Notice :=
  match reading.outcome with
  | .ok (token, state) => .produced token state.depth state.owed.closes state.owed.separators
  | .error refusal => .refused refusal

end Reading

namespace State

/-- Gives out an owed token. The brace behind the separator of an explicit closing brace covers that
brace. -/
def readOwed (state : State) (token : External) (owed : Owed) (p : Place) : Reading :=
  -- The last of the debt and a brace at the place: this is the brace that is owed.
  let coversBrace := token = .closeBrace ∧ owed.isSettled ∧ p.lookahead = some '}'
  .spelled token { state with owed := owed } p (if coversBrace then p.advance else p)

/-- Starts the block of an explicit opening brace, whose level the next scan records. -/
def awaitLevel (state : State) : Except Refusal State :=
  if state.awaitsLevel then
    .error .levelOutstanding
  else
    .ok { state with awaitsLevel := true }

/-- Closes the innermost block, if there is one, in front of an explicit closing brace. -/
def closeExplicitly (state : State) : State :=
  { state with levels := state.levels.tail, owed := state.owed.addClose }

/-- The token spelled out where the text was read to. It starts at `head`. -/
def readSpelled (state : State) (accepts : Acceptance) (head here : Place) : Reading :=
  match here.lookahead with
  | some '{' =>
      if accepts.openBrace then
        match state.awaitLevel with
        | .ok after => .spelled .openBrace after head here.advance
        | .error refusal => .refused refusal head here
      else
        .refused .nothingApplies head here
  | some '}' =>
      if accepts.closeBrace then
        .inserted .semicolon state.closeExplicitly head here []
      else
        .refused .nothingApplies head here
  | some ';' =>
      if accepts.semicolon then
        .spelled .semicolon state head here.advance
      else
        .refused .nothingApplies head here
  | some 'r' =>
      if accepts.rawString then
        match RawLiteral.read here with
        | .closed stop => .spelled .rawString state head stop
        | .absent reached => .refused .noRawString head reached
        | .unterminated pounds reached =>
            .refused (.openRawString pounds) head reached
      else
        .refused .nothingApplies head here
  | _ => .refused .nothingApplies head here

/-- The decision at a line's head once the off-side rule has deferred, which may have read the line
up to `here`. No spelled token opens like an ambiguous lead, so then nothing is left to try. -/
def readHead (state : State) (accepts : Acceptance) (head here : Place) : Reading :=
  if head.atEnd && !state.terminated then
    .inserted .semicolon { state with terminated := true } head here []
  else if (Opening.ofPlace head).isAmbiguous then
    .refused .nothingApplies head here
  else
    state.readSpelled accepts head here

/-- The level of the first text behind a margin: its indentation if the margin crosses a line
break, else its column. -/
def levelAt (margin : Margin) (head : Place) : Level :=
  if margin.crossesLine then margin.indent else .ofColumn head.column

/-- The decision of a scanner that owes nothing. -/
def readText (state : State) (accepts : Acceptance) (p : Place) : Reading :=
  let margin := p.margin
  let head := p.lineHead
  let recorded := state.recordLevel (levelAt margin head)
  let ruling :=
    if margin.crossesLine then recorded.ruleLine accepts margin.indent head else .defers head
  match ruling with
  | .produces token after reached notices => .inserted token after head reached notices
  | .continues reached => .refused .lineContinues head reached
  | .defers here => recorded.readHead accepts head here

/-- The decision alone, without its notice. -/
def read (state : State) (accepts : Acceptance) (p : Place) : Reading :=
  match state.owed.next? with
  | some (token, owed) => state.readOwed token owed p
  | none => state.readText accepts p

/-- Decides the next external token at `p`. -/
def scan (state : State) (accepts : Acceptance) (p : Place) : Reading :=
  let reading := state.read accepts p
  { reading with notices := reading.notices ++ [reading.summary] }

end State

end Offside
