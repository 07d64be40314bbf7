import Offside.Text.Hex
import Offside.Text.Unprintable

/-!
# Quoted text

A text between double quotes on one line, every character of it visible: a few characters have an
escape of their own, the unprintable others are written by their code.
-/

namespace Offside
namespace Text
namespace Quoted

/-- The letter that stands for a character behind a backslash. -/
def shortEscape? : Char → Option Char
  | '\x00' => some '0'
  | '\t' => some 't'
  | '\r' => some 'r'
  | '\n' => some 'n'
  | '"' => some '"'
  | '\\' => some '\\'
  | _ => none

def escape (c : Char) : List Char :=
  match shortEscape? c with
  | some letter => ['\\', letter]
  | none =>
      if isUnprintable c then
        ['\\', 'u', '{'] ++ Hex.ofNat c.toNat ++ ['}']
      else
        [c]

def encode (chars : List Char) : List Char :=
  '"' :: (chars.flatMap escape ++ ['"'])

end Quoted

/-- Writes a text in quotes. -/
def quote (text : String) : String :=
  String.ofList (Quoted.encode text.toList)

end Text
end Offside
