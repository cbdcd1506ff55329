import TenderClient.Text.Utf8
/-!
# Percent escapes

A `%` followed by two hexadecimal digits stands for the byte they spell; any other `%` is
itself. Escapes are decoded to bytes, which may or may not be UTF-8 text. The other way,
form fields are encoded as `application/x-www-form-urlencoded`: letters, digits and
`*-._` stay, a space becomes `+`, every other byte `%XX` in uppercase hex.
-/

set_option autoImplicit false

namespace TenderClient.Text

/-- The value of a hexadecimal digit, of either case. -/
def hexValue (b : UInt8) : Option Nat :=
  let n := b.toNat
  if 48 ≤ n ∧ n ≤ 57 then some (n - 48)
  else if 97 ≤ n ∧ n ≤ 102 then some (n - 87)
  else if 65 ≤ n ∧ n ≤ 70 then some (n - 55)
  else none

/-- Decodes the percent escapes of a list of bytes. -/
def percentDecodeBytes : List UInt8 → List UInt8
  | [] => []
  | b :: h :: l :: more =>
    if b == 37 then
      match hexValue h, hexValue l with
      | some x, some y => (x * 16 + y).toUInt8 :: percentDecodeBytes more
      | _, _ => b :: percentDecodeBytes (h :: l :: more)
    else b :: percentDecodeBytes (h :: l :: more)
  | b :: rest => b :: percentDecodeBytes rest

/-- The bytes a percent-escaped text stands for. -/
def percentDecode (s : String) : List UInt8 := percentDecodeBytes (encode s)

/-- An uppercase hexadecimal digit. -/
def hexUpper (n : Nat) : Char := if n < 10 then Char.ofNat (48 + n) else Char.ofNat (55 + n)

/-- One byte of a form field. -/
def formByte (b : UInt8) : List Char :=
  let n := b.toNat
  if (48 ≤ n ∧ n ≤ 57) ∨ (65 ≤ n ∧ n ≤ 90) ∨ (97 ≤ n ∧ n ≤ 122) ∨ n == 42 ∨ n == 45 ∨
      n == 46 ∨ n == 95 then [Char.ofNat n]
  else if n == 32 then ['+']
  else ['%', hexUpper (n / 16), hexUpper (n % 16)]

/-- A form field name or value, encoded. -/
def formEncode (s : String) : String := String.ofList ((encode s).flatMap formByte)

/-- Form fields as `name=value` pairs joined by `&`. -/
def formBody (fields : List (String × String)) : String :=
  "&".intercalate (fields.map fun f => formEncode f.1 ++ "=" ++ formEncode f.2)

end TenderClient.Text
