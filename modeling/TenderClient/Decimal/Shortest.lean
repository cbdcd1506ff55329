/-!
# Shortest decimal of a double

A finite binary64 value `m · 2^e` stands for every real that rounds to it: the interval
halfway to its two neighbours, with both ends included when `m` is even (a tie rounds to
the even mantissa). Its shortest decimal is the decimal with the fewest significant digits
in that interval, and of two such, the one nearer to the value.

The search is exact: all quantities are scaled to natural numbers. For `k = 1, 2, …, 17`
digits it tests the two multiples of `10^(E-k+1)` around the value (`E` is the exponent of
the leading digit); the first `k` with a hit wins.

Main statement: `Decimal.shortest` returns digits `d` and an exponent `q` with value
`d · 10^q`, `d` without trailing zeros.
-/

set_option autoImplicit false

namespace TenderClient.Decimal

/-- A finite positive double as an exact binary fraction: the value is `mant · 2^exp`. The
lower neighbour is nearer (half the spacing) when `mant` is the smallest mantissa of a
binade above the least one. -/
structure Binary where
  mant : Nat
  exp : Int
  lowerCloser : Bool

/-- Splits the bits of a double into sign and, for a finite nonzero value, its binary
fraction. -/
def Binary.ofBits (bits : UInt64) : Bool × Option Binary :=
  let n := bits.toNat
  let negative := n / Nat.pow 2 63 % 2 == 1
  let biased : Nat := n / Nat.pow 2 52 % Nat.pow 2 11
  let fraction : Nat := n % Nat.pow 2 52
  if biased == 0x7FF then (negative, none)
  else if biased == 0 then
    if fraction == 0 then (negative, none)
    else (negative, some ⟨fraction, -1074, false⟩)
  else
    (negative, some ⟨fraction + Nat.pow 2 52, Int.ofNat biased - 1075, fraction == 0 && biased > 1⟩)

/-- `10 ^ k` for an integer exponent that is known to be at least zero. -/
def pow10 (k : Int) : Nat := Nat.pow 10 k.toNat

/-- The number of decimal digits of a positive number. -/
def digitCount (n : Nat) : Nat := (Nat.toDigits 10 n).length

/-- Removes trailing zeros from a digit string `d · 10^q`. -/
def stripZeros (d : Nat) (q : Int) (fuel : Nat) : Nat × Int :=
  match fuel with
  | 0 => (d, q)
  | fuel + 1 => if d ≠ 0 ∧ d % 10 = 0 then stripZeros (d / 10) (q + 1) fuel else (d, q)

/-- The exponent of the leading decimal digit of `num / den`, for positive values:
`10^E ≤ num / den < 10^(E+1)`. -/
def leadingExponent (num den : Nat) : Int :=
  if num ≥ den then (digitCount (num / den) : Int) - 1
  else
    -- below one: the least `j` with `num · 10^j ≥ den`
    let rec below (j fuel : Nat) : Int :=
      match fuel with
      | 0 => -(j : Int)
      | fuel + 1 => if num * Nat.pow 10 j ≥ den then -(j : Int) else below (j + 1) fuel
    below 1 400

/-- The shortest decimal in the rounding interval of a finite positive double, as digits and
an exponent: the value is `digits · 10^exponent`. -/
def shortest (b : Binary) : Nat × Int :=
  -- Scaled by `2^(2 - exp)` when the exponent is small, so that the value, its bounds and
  -- every candidate are natural numbers.
  let a : Nat := (2 - b.exp).toNat
  let shift : Nat := (b.exp - 2 + a).toNat
  let v := 4 * b.mant * Nat.pow 2 shift
  let lo := (if b.lowerCloser then 4 * b.mant - 1 else 4 * b.mant - 2) * Nat.pow 2 shift
  let hi := (4 * b.mant + 2) * Nat.pow 2 shift
  let den := Nat.pow 2 a
  let inclusive := b.mant % 2 == 0
  let inside (x scale : Nat) : Bool :=
    if inclusive then lo * scale ≤ x ∧ x ≤ hi * scale else lo * scale < x ∧ x < hi * scale
  let e := leadingExponent v den
  let rec search (k fuel : Nat) : Nat × Int :=
    match fuel with
    | 0 => (b.mant, 0)
    | fuel + 1 =>
      let q : Int := e - (k : Int) + 1
      -- everything is multiplied by `10^(-q)` when `q` is negative
      let scale := pow10 (-q)
      let unit := pow10 q * den
      let vs := v * scale
      let down := vs / unit
      let up := down + 1
      let hitDown := inside (down * unit) scale
      let hitUp := inside (up * unit) scale
      if hitDown && hitUp then
        -- the nearer one; an exact tie goes to the even digit string
        let dd := vs - down * unit
        let du := up * unit - vs
        if dd < du then stripZeros down q 20
        else if du < dd then stripZeros up q 20
        else if down % 2 == 0 then stripZeros down q 20 else stripZeros up q 20
      else if hitDown then stripZeros down q 20
      else if hitUp then stripZeros up q 20
      else search (k + 1) fuel
  search 1 17

example : shortest ⟨1, 0, false⟩ = (1, 0) := by decide

end TenderClient.Decimal
