/-!
# Hexadecimal text

Bytes are written as two lower-case digits each, numbers without leading zeros. Main statement:

* `decodeBytes?_encodeBytes` — bytes read back.
-/

namespace Offside
namespace Text
namespace Hex

def digits : List Char :=
  ['0', '1', '2', '3', '4', '5', '6', '7', '8', '9', 'a', 'b', 'c', 'd', 'e', 'f']

/-- The digit of a value below sixteen. -/
def digit (value : Nat) : Char :=
  digits.getD value '0'

/-- The value of a digit. -/
def value? (c : Char) : Option Nat :=
  digits.idxOf? c

def encodeBytes (bytes : List UInt8) : List Char :=
  bytes.flatMap fun b => [digit (b.toNat / 16), digit (b.toNat % 16)]

/-- Reads bytes of two digits each. -/
def decodeBytes? : List Char → Option (List UInt8)
  | [] => some []
  | [_] => none
  | high :: low :: rest => do
      let high ← value? high
      let low ← value? low
      let bytes ← decodeBytes? rest
      return .ofNat (16 * high + low) :: bytes

/-- The digits of a number, most significant first. -/
def ofNat (n : Nat) : List Char :=
  Nat.toDigits 16 n

theorem value?_digit {value : Nat} (h : value < 16) : value? (digit value) = some value := by
  have : ∀ v : Fin 16, value? (digit v.val) = some v.val := by decide
  exact this ⟨value, h⟩

theorem decodeBytes?_encodeBytes (bytes : List UInt8) :
    decodeBytes? (encodeBytes bytes) = some bytes := by
  induction bytes with
  | nil => rfl
  | cons b rest ih =>
      have bound := b.toNat_lt
      have high : value? (digit (b.toNat / 16)) = some (b.toNat / 16) := value?_digit (by omega)
      have low : value? (digit (b.toNat % 16)) = some (b.toNat % 16) := value?_digit (by omega)
      have whole : 16 * (b.toNat / 16) + b.toNat % 16 = b.toNat := Nat.div_add_mod ..
      change decodeBytes? (digit (b.toNat / 16) :: digit (b.toNat % 16) :: encodeBytes rest) = _
      simp only [decodeBytes?, high, low, ih, Option.bind_eq_bind, Option.bind_some, whole,
        UInt8.ofNat_toNat]
      rfl

end Hex
end Text
end Offside
