import Offside.Stream
import Offside.Text.Blank
import Offside.Text.Json
import Offside.Text.Quoted

/-!
# Reports

Printed forms of a stream: a table with one lexeme on a line, a JSON document, and the lexemes on
one line. The first two can show the checkpoints as well.
-/

namespace Offside

/-- The bytes of a saved state in hexadecimal. -/
def Checkpoint.hex (checkpoint : Checkpoint) : String :=
  String.ofList (Text.Hex.encodeBytes checkpoint.state)

/-- Where a checkpoint is, how many levels it holds and its bytes. -/
def Checkpoint.report (checkpoint : Checkpoint) : String :=
  let depth :=
    match Checkpoint.decode checkpoint.state with
    | .ok state => toString state.depth
    | .error _ => "?"
  s!"@{checkpoint.offset} depth={depth} [" ++ checkpoint.hex ++ "]"

namespace Report

inductive Format
  | text
  | compact
  | json
  deriving DecidableEq, Repr, Inhabited

/-! ## Text -/

/-- The columns for the span of a lexeme. -/
def spanWidth : Nat := 12

/-- The columns for the kind of a lexeme. -/
def kindWidth : Nat := 26

/-- Fills a text up to `width` characters with spaces. -/
def padRight (width : Nat) (text : String) : String :=
  text ++ String.ofList (List.replicate (width - text.length) ' ')

def lexemeLine (source : String) (lexeme : Lexeme) : String :=
  padRight spanWidth s!"{lexeme.span.start}..{lexeme.span.stop}" ++ " " ++
    padRight kindWidth lexeme.kind.name ++ " " ++ Text.quote (lexeme.render source)

/-- The line of a checkpoint, behind the column of the spans. -/
def checkpointLine (checkpoint : Checkpoint) : String :=
  padRight (spanWidth + 1) "" ++ checkpoint.report

/-- One line for each lexeme. Each external token is followed by the line of the next checkpoint,
while there are any. The lines come last first, in front of those already printed. -/
def linesOnto (source : String) (printed : List String) :
    List Checkpoint → List Lexeme → List String
  | _, [] => printed
  | [], lexeme :: rest => linesOnto source (lexemeLine source lexeme :: printed) [] rest
  | checkpoint :: saved, lexeme :: rest =>
      if lexeme.isExternal then
        linesOnto source (checkpointLine checkpoint :: lexemeLine source lexeme :: printed) saved
          rest
      else
        linesOnto source (lexemeLine source lexeme :: printed) (checkpoint :: saved) rest

def lines (source : String) (saved : List Checkpoint) (lexemes : List Lexeme) : List String :=
  (linesOnto source [] saved lexemes).reverse

/-- Removes the blank characters at the end of a text. -/
def trimEnd (text : String) : String :=
  String.ofList (text.toList.reverse.dropWhile Text.isBlank).reverse

/-- The table of a stream. The checkpoint that the stream began with has no line. -/
def table (source : String) (stream : Stream) (withCheckpoints : Bool) : String :=
  let saved := if withCheckpoints then stream.checkpoints.tail else []
  trimEnd (String.join ((lines source saved stream.lexemes).map (· ++ "\n")))

/-! ## JSON -/

open Text (Json)

def lexemeDocument (source : String) (lexeme : Lexeme) : Json :=
  .object
    [("end", .number lexeme.span.stop),
     ("kind", .text lexeme.kind.name),
     ("start", .number lexeme.span.start),
     ("synthetic", .truth (lexeme.isExternal && lexeme.span.isEmpty)),
     ("text", .text (lexeme.render source))]

def checkpointDocument (checkpoint : Checkpoint) : Json :=
  .object [("offset", .number checkpoint.offset), ("state", .text checkpoint.hex)]

def document (source : String) (stream : Stream) (withCheckpoints : Bool) : Json :=
  let lexemes := ("lexemes", .array (stream.lexemes.map (lexemeDocument source)))
  if withCheckpoints then
    .object [("checkpoints", .array (stream.checkpoints.map checkpointDocument)), lexemes]
  else
    .object [lexemes]

/-! ## All formats -/

/-- Prints a stream. The compact format never shows checkpoints. -/
def print (format : Format) (source : String) (stream : Stream) (withCheckpoints : Bool) : String :=
  match format with
  | .text => table source stream withCheckpoints
  | .compact => stream.compact source
  | .json => (document source stream withCheckpoints).print

end Report

end Offside
