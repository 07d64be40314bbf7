import Offside.Text.Hex

/-!
# JSON text

Documents of objects, arrays, strings, numbers and truth values, printed with one member on a line
and two columns of indentation for each level. Object members are printed in the order given.
-/

namespace Offside
namespace Text

inductive Json
  | number (n : Nat)
  | text (s : String)
  | truth (b : Bool)
  | array (items : List Json)
  | object (members : List (String × Json))

namespace Json

/-- The letter that stands for a character behind a backslash. -/
def shortEscape? : Char → Option Char
  | '"' => some '"'
  | '\\' => some '\\'
  | '\x08' => some 'b'
  | '\t' => some 't'
  | '\n' => some 'n'
  | '\x0c' => some 'f'
  | '\r' => some 'r'
  | _ => none

/-- Only quotes, backslashes and the characters below the space need an escape. -/
def escape (c : Char) : List Char :=
  match shortEscape? c with
  | some letter => ['\\', letter]
  | none =>
      if c.toNat < 0x20 then
        ['\\', 'u', '0', '0'] ++ Hex.encodeBytes [.ofNat c.toNat]
      else
        [c]

def quote (text : String) : String :=
  String.ofList ('"' :: (text.toList.flatMap escape ++ ['"']))

/-- Starts a new line at the given level. -/
def newline (level : Nat) : String :=
  "\n" ++ String.ofList (List.replicate (2 * level) ' ')

/-- Joins the printed members of an array or object between its brackets. -/
def enclose (first last : String) (level : Nat) (members : List String) : String :=
  if members.isEmpty then
    first ++ last
  else
    first ++ newline (level + 1) ++ (("," ++ newline (level + 1)).intercalate members) ++
      newline level ++ last

mutual

/-- Prints a value that stands at the given level. -/
def printAt (level : Nat) : Json → String
  | number n => toString n
  | text s => quote s
  | truth true => "true"
  | truth false => "false"
  | array items => enclose "[" "]" level (printItems (level + 1) [] items)
  | object members => enclose "\x7b" "\x7d" level (printMembers (level + 1) [] members)

/-- Prints items behind those already printed, of which the last comes first. -/
def printItems (level : Nat) (printed : List String) : List Json → List String
  | [] => printed.reverse
  | item :: rest => printItems level (printAt level item :: printed) rest

/-- Prints members behind those already printed, of which the last comes first. -/
def printMembers (level : Nat) (printed : List String) : List (String × Json) → List String
  | [] => printed.reverse
  | (name, value) :: rest =>
      printMembers level ((quote name ++ ": " ++ printAt level value) :: printed) rest

end

def print (document : Json) : String :=
  document.printAt 0

end Json
end Text
end Offside
