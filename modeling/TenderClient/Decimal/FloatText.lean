import TenderClient.Decimal.Shortest
/-!
# Text of a double

A double is written with its shortest decimal (`Decimal.shortest`). The place of the
decimal point decides the form: with `n` digits and the point `p` places after the first
digit's position (`p = n + q` for `d · 10^q`), a style writes the value positionally while
`p` lies in its window and in scientific form outside it. An integral value written
positionally ends in `.0`. Zero is `0.0`, a negative value and negative zero take `-`,
and the non-finite values are `NaN`, `inf` and `-inf`.

Two styles are used: `FloatStyle.compact` (positional for `-5 < p ≤ 16`, as JSON
messages write numbers) and `FloatStyle.positional` (positional always, as messages about
configuration values write them).
-/

set_option autoImplicit false

namespace TenderClient.Decimal

/-- Where a style leaves positional notation. -/
structure FloatStyle where
  /-- `some (lo, hi)`: positional exactly when `lo < p ≤ hi`; `none`: always. -/
  window : Option (Int × Int)

/-- Positional for `-5 < p ≤ 16`, scientific outside with a bare `e` and no `+`. -/
def FloatStyle.compact : FloatStyle := ⟨some (-5, 16)⟩

/-- Positional for every exponent. -/
def FloatStyle.positional : FloatStyle := ⟨none⟩

/-- `count` zeros. -/
def zeros (count : Nat) : String := String.ofList (List.replicate count '0')

/-- Writes `digits · 10^q` (digits without trailing zeros) in a style. -/
def renderDigits (style : FloatStyle) (digits : Nat) (q : Int) : String :=
  let ds := Nat.repr digits
  let n : Int := ds.length
  let p := n + q
  let inWindow : Bool := match style.window with
    | some (lo, hi) => decide (lo < p ∧ p ≤ hi)
    | none => true
  if inWindow then
    if q ≥ 0 then ds ++ zeros q.toNat ++ ".0"
    else if p > 0 then
      String.ofList (ds.toList.take p.toNat) ++ "." ++ String.ofList (ds.toList.drop p.toNat)
    else "0." ++ zeros (-p).toNat ++ ds
  else
    let mantissa :=
      if ds.length = 1 then ds
      else String.ofList (ds.toList.take 1) ++ "." ++ String.ofList (ds.toList.drop 1)
    mantissa ++ "e" ++ toString (p - 1)

/-- The text of a double in a style. -/
def renderFloat (style : FloatStyle) (f : Float) : String :=
  let bits := f.toBits.toNat
  let negative := bits / Nat.pow 2 63 % 2 == 1
  let biased := bits / Nat.pow 2 52 % Nat.pow 2 11
  let fraction := bits % Nat.pow 2 52
  if biased == 0x7FF then
    if fraction ≠ 0 then "NaN" else if negative then "-inf" else "inf"
  else
    let sign := if negative then "-" else ""
    match (Binary.ofBits f.toBits).2 with
    | none => sign ++ "0.0"
    | some b =>
      let (digits, q) := shortest b
      sign ++ renderDigits style digits q

end TenderClient.Decimal
