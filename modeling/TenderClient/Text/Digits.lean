/-!
# Decimal integers

Reading a decimal integer of 64 bits from a text: an optional sign, then one or more ASCII
digits, nothing else. An unsigned reading admits `+` only; a signed one admits `+` and `-`.
Both refuse a value outside their range, an empty digit string, blanks and digit
separators.
-/

set_option autoImplicit false

namespace TenderClient.Text

/-- The value of a nonempty string of ASCII digits, or `none` when a character is no digit
or there is no digit at all. -/
def digitsValue (cs : List Char) : Option Nat :=
  if cs.isEmpty then none
  else cs.foldl (fun acc c => acc.bind fun n =>
    if c.isDigit then some (10 * n + (c.toNat - '0'.toNat)) else none) (some 0)

/-- The largest unsigned 64-bit value plus one, `2^64`. -/
def wordSize : Nat := 18446744073709551616

/-- Reads an unsigned 64-bit decimal: an optional `+`, then digits. -/
def readUnsigned (s : String) : Option Nat :=
  let body := match s.toList with
    | '+' :: rest => rest
    | cs => cs
  (digitsValue body).bind fun n => if n < wordSize then some n else none

/-- Reads a signed 64-bit decimal: an optional `+` or `-`, then digits; the value lies
in `[-2^63, 2^63)`. -/
def readSigned (s : String) : Option Int :=
  let (negative, body) := match s.toList with
    | '+' :: rest => (false, rest)
    | '-' :: rest => (true, rest)
    | cs => (false, cs)
  (digitsValue body).bind fun n =>
    if negative then (if n ≤ Nat.pow 2 63 then some (-(n : Int)) else none)
    else if n < Nat.pow 2 63 then some (n : Int) else none

example : readUnsigned "+12" = some 12 ∧ readUnsigned "-1" = none ∧ readUnsigned "+" = none ∧
    readSigned "-9223372036854775808" = some (-9223372036854775808) ∧
    readSigned "+-5" = none := by
  decide

end TenderClient.Text
