import TenderClient.Yaml.Syntax

/-!
# What a YAML scalar stands for

A quoted scalar is text. A plain one is read by these rules, in order: empty, `~`, `null`,
`Null` or `NULL` is null; `true`, `True`, `TRUE`, `false`, `False`, `FALSE` are booleans;
then an integer (decimal, or with `0x`, `0o`, `0b` after an optional sign); then a finite
decimal number or `.inf`, `-.inf`, `.nan` in three spellings; anything else is text. Digits
with a leading zero (`007`, `-01`) are text, never numbers. The standard tags `!!bool`,
`!!int`, `!!float` and `!!null` force their rule and refuse a text that does not fit it.

Integers come in four widths, tried in order: unsigned and signed 64-bit, then unsigned and
signed 128-bit.
-/

set_option autoImplicit false

namespace TenderClient.Yaml

/-- The meaning of a scalar. -/
inductive Resolved where
  | null
  | bool (b : Bool)
  /-- An integer that fits 64 unsigned bits. -/
  | unsigned (n : Nat)
  /-- An integer that fits 64 signed bits but not 64 unsigned ones. -/
  | signed (v : Int)
  /-- An integer that needs 128 unsigned bits. -/
  | wideUnsigned (n : Nat)
  /-- An integer that needs 128 signed bits. -/
  | wideSigned (v : Int)
  | float (f : Float)
  | text (s : String)
  /-- A tagged scalar whose text does not fit its tag, and what the tag expects. -/
  | refused (text : String) (expected : String)

namespace Scalar

/-- The full names of the standard tags. -/
def boolTag : String := "tag:yaml.org,2002:bool"
def intTag : String := "tag:yaml.org,2002:int"
def floatTag : String := "tag:yaml.org,2002:float"
def nullTag : String := "tag:yaml.org,2002:null"

/-- The four spellings of null. -/
def isNullWord (s : String) : Bool := s == "null" || s == "Null" || s == "NULL" || s == "~"

/-- The six spellings of the booleans. -/
def boolWord? (s : String) : Option Bool :=
  if s == "true" || s == "True" || s == "TRUE" then some true
  else if s == "false" || s == "False" || s == "FALSE" then some false
  else none

/-- The value of a digit in bases up to 36, letters of either case. -/
def digitValue (c : Char) : Option Nat :=
  if c.isDigit then some (c.toNat - '0'.toNat)
  else if 'a' ≤ c && c ≤ 'z' then some (c.toNat - 'a'.toNat + 10)
  else if 'A' ≤ c && c ≤ 'Z' then some (c.toNat - 'A'.toNat + 10)
  else none

/-- The value of a nonempty run of digits in a base, none if a character is not one. -/
def digitsIn (radix : Nat) (cs : List Char) : Option Nat :=
  if cs.isEmpty then none
  else cs.foldlM (fun acc c => match digitValue c with
    | some d => if d < radix then some (acc * radix + d) else none
    | none => none) 0

/-- An unsigned integer of `bits` bits in a base, with an optional leading `+`. -/
def unsignedIn (bits radix : Nat) (cs : List Char) : Option Nat :=
  let digits := match cs with
    | '+' :: rest => if rest.isEmpty then [] else rest
    | _ => cs
  (digitsIn radix digits).filter (· < Nat.pow 2 bits)

/-- A signed integer of `bits` bits in a base, with an optional leading sign. -/
def signedIn (bits radix : Nat) (cs : List Char) : Option Int :=
  let half := Nat.pow 2 (bits - 1)
  match cs with
  | '-' :: rest =>
    if rest.isEmpty then none
    else (digitsIn radix rest).bind fun n => if n ≤ half then some (-(n : Int)) else none
  | '+' :: rest =>
    if rest.isEmpty then none
    else (digitsIn radix rest).bind fun n => if n < half then some (n : Int) else none
  | _ => (digitsIn radix cs).bind fun n => if n < half then some (n : Int) else none

/-- Digits with a leading zero, after an optional sign: text, not a number. -/
def digitsButNotNumber (s : String) : Bool :=
  let cs := match s.toList with
    | '-' :: rest => rest
    | '+' :: rest => rest
    | cs => cs
  match cs with
  | '0' :: rest => !rest.isEmpty && rest.all Char.isDigit
  | _ => false

/-- The radix prefixes, in the order they are tried. -/
def radixPrefixes : List (List Char × Nat) := [(['0', 'x'], 16), (['0', 'o'], 8), (['0', 'b'], 2)]

/-- An unsigned integer of `bits` bits: an optional `+`, then a radix prefix and digits, or
decimal digits without a leading zero. -/
def parseUnsigned (bits : Nat) (s : String) : Option Nat :=
  let cs := s.toList
  let unpositive := match cs with
    | '+' :: rest => rest
    | _ => cs
  let signed (r : List Char) := r.head? == some '+' || r.head? == some '-'
  let rec viaPrefix : List (List Char × Nat) → Option (Option Nat)
    | [] => none
    | (p, radix) :: more =>
      if p.isPrefixOf unpositive then
        let rest := unpositive.drop p.length
        if signed rest then some none
        else match unsignedIn bits radix rest with
          | some n => some (some n)
          | none => viaPrefix more
      else viaPrefix more
  match viaPrefix radixPrefixes with
  | some result => result
  | none =>
    if signed unpositive || digitsButNotNumber s then none
    else unsignedIn bits 10 unpositive

/-- A signed integer of `bits` bits: `-0x`, `-0o`, `-0b` and digits, or a decimal integer
with an optional sign and no leading zero. -/
def parseNegative (bits : Nat) (s : String) : Option Int :=
  let cs := s.toList
  let rec viaPrefix : List (List Char × Nat) → Option Int
    | [] => none
    | (p, radix) :: more =>
      if ('-' :: p).isPrefixOf cs then
        match signedIn bits radix ('-' :: cs.drop (p.length + 1)) with
        | some v => some v
        | none => viaPrefix more
      else viaPrefix more
  match viaPrefix radixPrefixes with
  | some v => some v
  | none => if digitsButNotNumber s then none else signedIn bits 10 cs

/-- The integer a text stands for, in the first of the four widths that holds it. -/
def intValue? (s : String) : Option Resolved :=
  match parseUnsigned 64 s with
  | some n => some (.unsigned n)
  | none => match parseNegative 64 s with
    | some v => some (.signed v)
    | none => match parseUnsigned 128 s with
      | some n => some (.wideUnsigned n)
      | none => (parseNegative 128 s).map .wideSigned

/-- A decimal number: an optional sign, digits with an optional point (at least one digit
on one side), and an optional exponent. Gives the sign, the digits as one integer, and the
power of ten. -/
def decimalParts (cs : List Char) : Option (Bool × Nat × Int) :=
  let (negative, body) := match cs with
    | '-' :: rest => (true, rest)
    | '+' :: rest => (false, rest)
    | _ => (false, cs)
  let whole := body.takeWhile Char.isDigit
  let afterWhole := body.dropWhile Char.isDigit
  let (fraction, afterFraction) := match afterWhole with
    | '.' :: rest => (rest.takeWhile Char.isDigit, rest.dropWhile Char.isDigit)
    | _ => ([], afterWhole)
  if whole.isEmpty && fraction.isEmpty then none
  else
    let exponent : Option Int := match afterFraction with
      | [] => some 0
      | e :: rest =>
        if e == 'e' || e == 'E' then
          let (expNegative, digits) := match rest with
            | '-' :: ds => (true, ds)
            | '+' :: ds => (false, ds)
            | ds => (false, ds)
          if digits.isEmpty || !digits.all Char.isDigit then none
          else
            let n := digits.foldl (fun acc d => acc * 10 + (d.toNat - '0'.toNat)) 0
            some (if expNegative then -(n : Int) else n)
        else none
    exponent.map fun e =>
      let digits := (whole ++ fraction).foldl (fun acc d => acc * 10 + (d.toNat - '0'.toNat)) 0
      (negative, digits, e - fraction.length)

/-- The number of decimal digits of a positive integer. -/
def digitCount (n : Nat) : Nat := (Nat.toDigits 10 n).length

/-- The nearest double to `digits × 10 ^ power`, or none if it is infinite. -/
def nearestDouble (negative : Bool) (digits : Nat) (power : Int) : Option Float :=
  let sign (f : Float) : Float := if negative then -f else f
  if digits == 0 then some (sign 0.0)
  else
    let magnitude := (digitCount digits : Int) + power
    if magnitude > 310 then none
    else if magnitude < -330 then some (sign 0.0)
    else
      let f := if power < 0 then Float.ofScientific digits true power.natAbs
        else Float.ofScientific digits false power.toNat
      if f.isInf then none else some (sign f)

/-- A finite number: `.inf` and `.nan` in their spellings, or a decimal number that does
not overflow. One leading `+` is allowed before all but `-.inf` and `.nan`. -/
def parseFloat (s : String) : Option Float :=
  let cs := s.toList
  let unpositive? : Option (List Char) := match cs with
    | '+' :: rest => if rest.head? == some '+' || rest.head? == some '-' then none else some rest
    | _ => some cs
  unpositive?.bind fun unpositive =>
    let word := String.ofList unpositive
    if word == ".inf" || word == ".Inf" || word == ".INF" then some (1.0 / 0.0)
    else if s == "-.inf" || s == "-.Inf" || s == "-.INF" then some (-1.0 / 0.0)
    else if s == ".nan" || s == ".NaN" || s == ".NAN" then some (0.0 / 0.0)
    else (decimalParts unpositive).bind fun (negative, digits, power) =>
      nearestDouble negative digits power

/-- The meaning of a plain scalar without a tag. -/
def untagged (s : String) : Resolved :=
  if s.isEmpty || isNullWord s then .null
  else match boolWord? s with
    | some b => .bool b
    | none => match intValue? s with
      | some r => r
      | none =>
        if digitsButNotNumber s then .text s
        else match parseFloat s with
          | some f => .float f
          | none => .text s

end Scalar

/-- The meaning of a scalar given its tag, text and style. -/
def Scalar.resolve (tag : Option String) (text : String) (style : ScalarStyle) : Resolved :=
  match tag with
  | some t =>
    if t == Scalar.boolTag then
      match Scalar.boolWord? text with
      | some b => .bool b
      | none => .refused text "a boolean"
    else if t == Scalar.intTag then
      match Scalar.intValue? text with
      | some r => r
      | none => .refused text "an integer"
    else if t == Scalar.floatTag then
      match Scalar.parseFloat text with
      | some f => .float f
      | none => .refused text "a float"
    else if t == Scalar.nullTag then
      if Scalar.isNullWord text then .null else .refused text "null"
    else if t.startsWith "!" && style == .plain then Scalar.untagged text
    else .text text
  | none => if style == .plain then Scalar.untagged text else .text text

end TenderClient.Yaml
