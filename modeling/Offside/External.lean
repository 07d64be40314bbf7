/-!
# External tokens

The tokens that the layout scanner can hand to its host. Four of them are tokens of the surface
language; the fifth, `endContinuation`, is never produced: a host lists it as acceptable to say that
the line so far is unfinished.

Every token has a slot. Acceptance sets and tables are ordered by slot.
-/

namespace Offside

inductive External
  | openBrace
  | closeBrace
  | semicolon
  | rawString
  | endContinuation
  deriving DecidableEq, Repr, Inhabited

namespace External

/-- All external tokens, by slot. -/
def all : List External :=
  [openBrace, closeBrace, semicolon, rawString, endContinuation]

def slot : External → Nat
  | openBrace => 0
  | closeBrace => 1
  | semicolon => 2
  | rawString => 3
  | endContinuation => 4

def ofSlot? (n : Nat) : Option External :=
  all[n]?

/-- The name of the token in a grammar that declares it. -/
def grammarName : External → String
  | openBrace => "_open_brace"
  | closeBrace => "_close_brace"
  | semicolon => "_semi"
  | rawString => "_raw_string"
  | endContinuation => "_end_continuation_signal"

def ofGrammarName? (name : String) : Option External :=
  all.find? fun token => token.grammarName == name

/-- The spelling of the token in listings and messages. -/
def spelling : External → String
  | openBrace => "\x7b"
  | closeBrace => "\x7d"
  | semicolon => ";"
  | rawString => "r\"…\""
  | endContinuation => "<end-continuation>"

/-- Whether a scan can produce the token at all. -/
def isProduced (token : External) : Bool :=
  token != endContinuation

theorem ofSlot?_slot (token : External) : ofSlot? token.slot = some token := by
  cases token <;> rfl

theorem ofGrammarName?_grammarName (token : External) :
    ofGrammarName? token.grammarName = some token := by
  cases token <;> decide

end External

/-- The characters that start a token spelled out in the source, by slot order of their tokens. -/
def explicitLeads : List Char :=
  ['{', '}', ';', 'r']

end Offside
