/-!
# Continuation leads

A line may go on with the statement of the line before it. Whether it does shows at its head: some
characters, the *immediate* leads, continue whatever follows them; a few, the *ambiguous* leads,
continue only in some spellings.

The table says for every lead which spellings continue a statement and which longer spellings do
not. `Certainty.ofChar?` answers the first question alone, without the table.
-/

namespace Offside

inductive Certainty
  | immediate
  | ambiguous
  deriving DecidableEq, Repr

/-- What the first character of a line says about continuation; `none` for an ordinary character. -/
def Certainty.ofChar? : Char → Option Certainty
  | '$' | '%' | '&' | '*' | '+' | '@' | '\\' | '^' | '?' | '.' | '=' | ')' | ']' | '{' | '}' | ':'
  | '-' | '|' => some .immediate
  | '>' | '<' | 't' | 'e' => some .ambiguous
  | _ => none

structure Lead where
  char : Char
  certainty : Certainty
  /-- The spellings that continue a statement. -/
  continues : List String
  /-- The longer spellings that do not. -/
  excluded : List String
  deriving DecidableEq, Repr

namespace Lead

private def settled (char : Char) (continues : List String) : Lead where
  char := char
  certainty := .immediate
  continues := continues
  excluded := []

private def unsettled (char : Char) (continues excluded : List String) : Lead where
  char := char
  certainty := .ambiguous
  continues := continues
  excluded := excluded

def table : List Lead :=
  [settled '$' ["$"],
   settled '%' ["%"],
   settled '&' ["&", "&&"],
   settled '*' ["*"],
   settled '+' ["+", "++"],
   settled '@' ["@"],
   settled '\\' ["\\"],
   settled '^' ["^"],
   settled '?' ["?"],
   settled '.' [".", ".."],
   settled '=' ["=", "=="],
   settled ')' [")"],
   settled ']' ["]"],
   settled '{' ["\x7b"],
   settled '}' ["\x7d"],
   settled ':' [":", ":="],
   settled '-' ["-", "->"],
   settled '|' ["|", "||"],
   unsettled '>' [">", ">="] [">>", ">|<"],
   unsettled '<' ["<", "<-", "<="] ["<<"],
   unsettled 't' ["then"] [],
   unsettled 'e' ["else", "elif"] []]

def find? (c : Char) : Option Lead :=
  table.find? fun lead => lead.char == c

/-- The words that continue a statement. -/
def keywords : List String :=
  ["then", "else", "elif"]

/-- A keyword ends where no such character follows. -/
def isWordChar (c : Char) : Bool :=
  c.isAlphanum || c == '\''

end Lead

end Offside
