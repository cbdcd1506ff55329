/-!
# Punycode

A label beyond ASCII travels as `xn--` and its Punycode: the ASCII characters of the label
in order, a hyphen when there are any, and then, for each other code point in ascending
order, the distance from the last insertion written as a number of variable length in
base 36, whose digit thresholds follow a bias that adapts after every insertion.

Decoding runs the same steps backwards on 32-bit arithmetic: a digit that is no letter or
digit, a number cut off by the end of the text, an overflow, or a code point that is not a
character makes the text no Punycode.
-/

set_option autoImplicit false

namespace TenderClient.Web.Punycode

/-- The base of the numbers. -/
def base : Nat := 36

/-- The largest 32-bit number, the limit of every step of decoding. -/
def limit : Nat := 0xFFFFFFFF

/-- A digit as written. -/
def digit (d : Nat) : Char := if d < 26 then Char.ofNat (97 + d) else Char.ofNat (22 + d)

/-- The value of a written digit: letters in either case, then the ten digits. -/
def digitValue? (c : Char) : Option Nat :=
  if 'a' ≤ c && c ≤ 'z' then some (c.toNat - 97)
  else if 'A' ≤ c && c ≤ 'Z' then some (c.toNat - 65)
  else if '0' ≤ c && c ≤ '9' then some (c.toNat - 22)
  else none

/-- The threshold of a digit position for a bias. -/
def threshold (k bias : Nat) : Nat :=
  if k ≤ bias then 1 else if k ≥ bias + 26 then 26 else k - bias

theorem threshold_pos (k bias : Nat) : 1 ≤ threshold k bias := by
  unfold threshold
  split
  · omega
  · split <;> omega

/-- Scales a bias down while the delta is large. -/
def scale (delta k : Nat) : Nat × Nat :=
  if delta > 455 then scale (delta / 35) (k + 36) else (delta, k)
termination_by delta
decreasing_by omega

/-- The bias after a delta, with the number of code points handled so far. -/
def adapt (delta handled : Nat) (first : Bool) : Nat :=
  let delta := if first then delta / 700 else delta / 2
  let delta := delta + delta / handled
  let (delta, k) := scale delta 0
  k + 36 * delta / (delta + 38)

/-- A delta as variable-length digits. -/
def number (bias k q : Nat) : List Char :=
  if q < threshold k bias then [digit q]
  else
    let t := threshold k bias
    digit (t + (q - t) % (36 - t)) :: number bias (k + 36) ((q - t) / (36 - t))
termination_by q
decreasing_by
  have := threshold_pos k bias
  exact Nat.lt_of_le_of_lt (Nat.div_le_self _ _) (by omega)

/-- Inserts a number into an ascending list without repeats. -/
def insertAscending (x : Nat) : List Nat → List Nat
  | [] => [x]
  | y :: ys => if x < y then x :: y :: ys else if x == y then y :: ys else y :: insertAscending x ys

/-- The state of an encoding: output, delta, bias, code points handled. -/
structure EncodeState where
  out : List Char
  delta : Nat
  bias : Nat
  handled : Nat

/-- Encodes the code points of a label, taking the code points beyond ASCII in ascending
order. -/
def encode (label : List Char) : List Char :=
  let points := label.map Char.toNat
  let basic := label.filter (·.toNat < 128)
  let wide := points.foldl (fun acc n => if n ≥ 128 then insertAscending n acc else acc) []
  let start : EncodeState :=
    { out := basic ++ (if basic.isEmpty then [] else ['-']), delta := 0, bias := 72,
      handled := basic.length }
  let visit (m : Nat) (st : EncodeState) (n : Nat) : EncodeState :=
    if n < m then { st with delta := st.delta + 1 }
    else if n == m then
      { out := st.out ++ number st.bias 36 st.delta, delta := 0,
        bias := adapt st.delta (st.handled + 1) (st.handled == basic.length),
        handled := st.handled + 1 }
    else st
  let rec go : List Nat → Nat → EncodeState → EncodeState
    | [], _, st => st
    | m :: rest, n, st =>
      let st := { st with delta := st.delta + (m - n) * (st.handled + 1) }
      let st := points.foldl (visit m) st
      go rest (m + 1) { st with delta := st.delta + 1 }
  (go wide 128 start).out

/-- Whether a number is the code point of a character. -/
def isCharCode (n : Nat) : Bool := n < 0xD800 || (0xDFFF < n && n ≤ 0x10FFFF)

/-- The state of a decoding: the characters so far, the code point and position of the
last insertion, the bias, and the number being read: where it started, its weight and the
digit position. -/
structure DecodeState where
  out : List Char
  code : Nat
  i : Nat
  bias : Nat
  start : Nat
  weight : Nat
  k : Nat
  /-- Whether a number has been started and not finished. -/
  reading : Bool

/-- Reads the numbers after the ASCII part, inserting a character for each. -/
def decodeDigits : List Char → DecodeState → Option (List Char)
  | [], st => if st.reading then none else some st.out
  | c :: cs, st => do
    let st := if st.reading then st
      else { st with start := st.i, weight := 1, k := base, reading := true }
    let d ← digitValue? c
    if d > (limit - st.i) / st.weight then none
    let i := st.i + d * st.weight
    let t := threshold st.k st.bias
    if d < t then
      let len := st.out.length + 1
      let code := st.code + i / len
      if code > limit || !isCharCode code then none
      let pos := i % len
      decodeDigits cs
        { st with out := st.out.insertIdx pos (Char.ofNat code), code, i := pos + 1,
                  bias := adapt (i - st.start) len (st.start == 0), reading := false }
    else
      if st.weight > limit / (base - t) then none
      decodeDigits cs { st with i, weight := st.weight * (base - t), k := st.k + base }

/-- Decodes a label written in Punycode: the part before the last hyphen is ASCII as it
stands, the rest are the numbers of the insertions. -/
def decode? (text : List Char) : Option (List Char) :=
  let (basic, rest) :=
    if text.contains '-' then
      let before := (text.reverse.dropWhile (· != '-')).drop 1
      (before.reverse, (text.reverse.takeWhile (· != '-')).reverse)
    else ([], text)
  if basic.any (·.toNat ≥ 128) then none
  else
    decodeDigits rest
      { out := basic, code := 128, i := 0, bias := 72, start := 0, weight := 1, k := base,
        reading := false }

end TenderClient.Web.Punycode
