import Offside.External
import Offside.Span
import Offside.Text.Slice

/-!
# Lexemes

What a session reads: tokens of the scanner, and the text that the host reads where no token
applies.
-/

namespace Offside

/-- Whether the layout rule inserted a token, rather than read it. A raw string is always read. -/
def External.isInserted (token : External) (span : Span) : Bool :=
  span.isEmpty && token != .rawString

inductive Lexeme.Kind
  | external (token : External)
  | text
  deriving DecidableEq, Repr

namespace Lexeme.Kind

def name : Kind → String
  | external token => token.grammarName
  | text => "text"

def token? : Kind → Option External
  | external token => some token
  | text => none

end Lexeme.Kind

structure Lexeme where
  kind : Lexeme.Kind
  span : Span
  deriving DecidableEq, Repr

namespace Lexeme

def isExternal (lexeme : Lexeme) : Bool :=
  lexeme.kind.token?.isSome

/-- The part of the source under the lexeme; empty if there is no such part. -/
def text (lexeme : Lexeme) (source : String) : String :=
  (Text.slice? source lexeme.span.start lexeme.span.stop).getD ""

/-- The printed form: the source under the lexeme, or the token's spelling if it has no width. -/
def render (lexeme : Lexeme) (source : String) : String :=
  match lexeme.kind with
  | .external token => if lexeme.span.isEmpty then token.spelling else lexeme.text source
  | .text => lexeme.text source

end Lexeme

end Offside
