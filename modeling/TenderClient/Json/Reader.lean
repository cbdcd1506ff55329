import TenderClient.Json.Value
import TenderClient.Json.Error
import TenderClient.Text.Utf8
/-!
# Reading JSON text

A reader walks the bytes of a JSON text. It is a state of the text and the offset reached,
with errors that keep the offset where they arose: when a decoder refuses a value, the
enclosing array or object is still closed off, and the error is placed where that ends.

The lexical rules are JSON's, with these decisions of this library:

* blanks are space, tab, line feed and carriage return;
* a number is an optional minus, an integer part without superfluous leading zero, an
  optional fraction and an optional exponent. An integer without fraction or exponent is
  kept exactly when it fits (`JsonNumber.nat`, `JsonNumber.neg`); any other number becomes
  a double, computed as the integer of its digits times or divided by a power of ten
  (digits past 19 only shift the exponent), and is refused when that overflows;
* arrays and objects nest at most 127 deep;
* a skipped value is checked as it is skipped, less strictly: its numbers are not
  evaluated and a control character in its strings is reported where it stands.
-/

set_option autoImplicit false

namespace TenderClient.Json

/-- Where reading stands in a text. -/
structure Cursor where
  bytes : ByteArray
  pos : Nat
  /-- How many more arrays or objects may open before the nesting limit. -/
  room : Nat

/-- A reader: moves through the text and may fail with a fault. -/
abbrev Reader := ExceptT Fault (StateM Cursor)

namespace Reader

/-- The byte at the current offset, if any. -/
def peek : Reader (Option UInt8) := do
  let c ← get
  pure c.bytes[c.pos]?

/-- Moves one byte on. -/
def bump : Reader Unit := modify fun c => { c with pos := c.pos + 1 }

/-- Takes the byte at the current offset. -/
def next : Reader (Option UInt8) := do
  let b ← peek
  if b.isSome then bump
  pure b

/-- Fails with a code placed at the current offset. -/
def fail {α : Type} (code : ErrorCode) : Reader α := do
  let c ← get
  throw ⟨code, some c.pos⟩

/-- Fails with a code placed after the byte that was looked at. -/
def failAhead {α : Type} (code : ErrorCode) : Reader α := do
  let c ← get
  throw ⟨code, some (min (c.pos + 1) c.bytes.size)⟩

/-- Raises a decoding problem, to be placed by the value that encloses it. -/
def problem {α : Type} (p : Decode.Problem) : Reader α := throw ⟨.problem p, none⟩

/-- Gives a fault without a place the current offset. -/
def place (f : Fault) : Reader Fault := do
  match f.offset with
  | some _ => pure f
  | none =>
    let c ← get
    pure { f with offset := some c.pos }

/-- Runs a reader and returns its error as a value, the offset left where it stopped. -/
def attempt {α : Type} (r : Reader α) : Reader (Except Fault α) :=
  tryCatch (r.map Except.ok) (fun e => pure (Except.error e))

/-- Runs a reader and places an error it raises at the offset where it stopped. -/
def placed {α : Type} (r : Reader α) : Reader α := do
  match ← attempt r with
  | .ok v => pure v
  | .error e => throw (← place e)

/-- The offset after the bytes from `pos` on that pass a test. -/
def skipFrom (bytes : ByteArray) (p : UInt8 → Bool) (pos : Nat) : Nat → Nat
  | 0 => pos
  | fuel + 1 =>
    match bytes[pos]? with
    | some b => if p b then skipFrom bytes p (pos + 1) fuel else pos
    | none => pos

/-- Moves past the bytes that pass a test. -/
def skipWhile (p : UInt8 → Bool) : Reader Unit :=
  modify fun c => { c with pos := skipFrom c.bytes p c.pos (c.bytes.size - c.pos) }

/-- Space, tab, line feed and carriage return. -/
def isBlankByte (b : UInt8) : Bool := b == 32 || b == 10 || b == 9 || b == 13

/-- An ASCII digit. -/
def isDigitByte (b : UInt8) : Bool := 48 ≤ b && b ≤ 57

/-- Skips blanks and looks at the byte after them. -/
def skipBlank : Reader (Option UInt8) := do
  skipWhile isBlankByte
  peek

/-- Reads the rest of a literal whose first letter was taken. -/
def expectWord : List UInt8 → Reader Unit
  | [] => pure ()
  | b :: bs => do
    match ← next with
    | none => fail .eofWhileParsingValue
    | some x => if x == b then expectWord bs else fail .expectedSomeIdent

/-- `ull`, `rue` and `alse`: the rest of `null`, `true` and `false`. -/
def restOfNull : List UInt8 := [117, 108, 108]
def restOfTrue : List UInt8 := [114, 117, 101]
def restOfFalse : List UInt8 := [97, 108, 115, 101]

/-! ## Strings -/

/-- The value of a hexadecimal digit. -/
def hexValue (b : UInt8) : Option Nat :=
  let n := b.toNat
  if 48 ≤ n ∧ n ≤ 57 then some (n - 48)
  else if 97 ≤ n ∧ n ≤ 102 then some (n - 87)
  else if 65 ≤ n ∧ n ≤ 70 then some (n - 55)
  else none

/-- Four hexadecimal digits of a `\u` escape; all four are taken before they are checked. -/
def hexEscape : Reader Nat := do
  let c ← get
  if c.pos + 4 > c.bytes.size then
    set { c with pos := c.bytes.size }
    fail .eofWhileParsingString
  else
    let ds := [c.bytes[c.pos]?, c.bytes[c.pos + 1]?, c.bytes[c.pos + 2]?, c.bytes[c.pos + 3]?]
    set { c with pos := c.pos + 4 }
    match ds.mapM fun d => d.bind hexValue with
    | some [a, b, c, d] => pure (((a * 16 + b) * 16 + c) * 16 + d)
    | _ => fail .invalidEscape

/-- Expects a byte that must follow a leading surrogate. -/
def expectSurrogateByte (b : UInt8) : Reader Unit := do
  match ← peek with
  | none => fail .eofWhileParsingString
  | some x =>
    bump
    if x == b then pure () else fail .unexpectedEndOfHexEscape

/-- Reads an escape whose backslash was taken, adding the bytes it stands for. -/
def escape (acc : Array UInt8) : Reader (Array UInt8) := do
  match ← next with
  | none => fail .eofWhileParsingString
  | some b =>
    if b == 34 then pure (acc.push 34)
    else if b == 92 then pure (acc.push 92)
    else if b == 47 then pure (acc.push 47)
    else if b == 98 then pure (acc.push 8)
    else if b == 102 then pure (acc.push 12)
    else if b == 110 then pure (acc.push 10)
    else if b == 114 then pure (acc.push 13)
    else if b == 116 then pure (acc.push 9)
    else if b == 117 then
      let n1 ← hexEscape
      if 0xDC00 ≤ n1 ∧ n1 ≤ 0xDFFF then fail .loneLeadingSurrogateInHexEscape
      else if 0xD800 ≤ n1 ∧ n1 ≤ 0xDBFF then
        expectSurrogateByte 92
        expectSurrogateByte 117
        let n2 ← hexEscape
        if n2 < 0xDC00 ∨ n2 > 0xDFFF then fail .loneLeadingSurrogateInHexEscape
        else
          let n := (n1 - 0xD800) * 1024 + (n2 - 0xDC00) + 0x10000
          pure (acc ++ (Text.encodeChar (Char.ofNat n)).toArray)
      else pure (acc ++ (Text.encodeChar (Char.ofNat n1)).toArray)
    else fail .invalidEscape

/-- Reads the rest of a string whose opening quote was taken. -/
def stringBody : Reader String := do
  let c ← get
  let rec go (acc : Array UInt8) : Nat → Reader (Array UInt8)
    | 0 => fail .eofWhileParsingString
    | fuel + 1 => do
      match ← next with
      | none => fail .eofWhileParsingString
      | some b =>
        if b == 34 then pure acc
        else if b == 92 then go (← escape acc) fuel
        else if b < 32 then fail .controlCharacterWhileParsingString
        else go (acc.push b) fuel
  let bytes ← go #[] (c.bytes.size - c.pos + 1)
  match String.fromUTF8? (ByteArray.mk bytes) with
  | some s => pure s
  | none => fail .invalidUnicodeCodePoint

/-- Skips an escape whose backslash was taken. -/
def skipEscape : Reader Unit := do
  match ← next with
  | none => fail .eofWhileParsingString
  | some b =>
    if b == 34 || b == 92 || b == 47 || b == 98 || b == 102 || b == 110 || b == 114 ||
      b == 116 then pure ()
    else if b == 117 then do
      let _ ← hexEscape
      pure ()
    else fail .invalidEscape

/-- Skips the rest of a string whose opening quote was taken. -/
def skipString : Reader Unit := do
  let c ← get
  let rec go : Nat → Reader Unit
    | 0 => fail .eofWhileParsingString
    | fuel + 1 => do
      match ← peek with
      | none => fail .eofWhileParsingString
      | some b =>
        if b == 34 then bump
        else if b == 92 then do
          bump
          skipEscape
          go fuel
        else if b < 32 then fail .controlCharacterWhileParsingString
        else do
          bump
          go fuel
  go (c.bytes.size - c.pos + 1)

/-! ## Numbers -/

/-- The largest unsigned 64-bit value, `2^64 - 1`. -/
def maxWord : Nat := 18446744073709551615

/-- The largest signed 32-bit value. -/
def maxExponent : Nat := Nat.pow 2 31 - 1

/-- Whether `acc * 10 + digit` passes `limit`. -/
def overflows (acc digit limit : Nat) : Bool :=
  acc ≥ limit / 10 && (acc > limit / 10 || digit > limit % 10)

/-- Keeps an exponent within the signed 32-bit range. -/
def clampExponent (e : Int) : Int :=
  max (-Int.pow 2 31) (min e (Int.pow 2 31 - 1))

/-- `10^k` as a double, correctly rounded. -/
def pow10 (k : Nat) : Float := Float.ofScientific 1 false k

/-- The double `significand · 10^exponent`: the significand made a double, then multiplied
or divided by one power of ten; exponents beyond 308 divide by `10^308` first. Refused
(`none`) when the product overflows. -/
def fromParts (positive : Bool) (significand : Nat) (exponent : Int) : Option Float :=
  let rec go (f : Float) (e : Int) : Nat → Option Float
    | 0 => some f
    | fuel + 1 =>
      if e.natAbs ≤ 308 then
        if e ≥ 0 then
          let g := f * pow10 e.natAbs
          if g.isInf then none else some g
        else some (f / pow10 e.natAbs)
      else if f == 0 then some f
      else if e ≥ 0 then none
      else go (f / pow10 308) (e + 308) fuel
  (go significand.toUInt64.toFloat exponent 8).map fun f => if positive then f else -f

/-- Ends a number: its double, or a refusal placed at the current offset. -/
def finish (positive : Bool) (significand : Nat) (exponent : Int) : Reader Float :=
  match fromParts positive significand exponent with
  | some f => pure f
  | none => fail .numberOutOfRange

/-- Skips the digits that follow. -/
def skipDigits : Reader Unit := skipWhile isDigitByte

/-- An exponent part, its `e` not yet taken. -/
def exponentPart (positive : Bool) (significand : Nat) (start : Int) : Reader Float := do
  bump
  let positiveExp ← do
    match ← peek with
    | some 43 => bump; pure true
    | some 45 => bump; pure false
    | _ => pure true
  match ← next with
  | none => fail .eofWhileParsingValue
  | some d =>
    if !isDigitByte d then fail .invalidNumber
    else
      let c ← get
      let rec go (e : Nat) : Nat → Reader Float
        | 0 => pure 0
        | fuel + 1 => do
          match ← peek with
          | some x =>
            if isDigitByte x then do
              bump
              let digit := x.toNat - 48
              if overflows e digit maxExponent then
                if significand ≠ 0 && positiveExp then fail .numberOutOfRange
                else
                  skipDigits
                  pure (if positive then 0 else -0.0)
              else go (e * 10 + digit) fuel
            else
              finish positive significand
                (clampExponent (if positiveExp then start + e else start - e))
          | none =>
            finish positive significand
              (clampExponent (if positiveExp then start + e else start - e))
      go (d.toNat - 48) (c.bytes.size - c.pos + 1)

/-- The end of a fraction: at least one digit, then an optional exponent. -/
def fractionEnd (positive : Bool) (sig : Nat) (before after : Int) : Reader Float := do
  if after == 0 then
    match ← peek with
    | some _ => failAhead .invalidNumber
    | none => failAhead .eofWhileParsingValue
  else
    match ← peek with
    | some 101 | some 69 => exponentPart positive sig (before + after)
    | _ => finish positive sig (before + after)

/-- A fraction, its point not yet taken. -/
def fraction (positive : Bool) (significand : Nat) (before : Int) : Reader Float := do
  bump
  let c ← get
  let rec go (sig : Nat) (after : Int) : Nat → Reader Float
    | 0 => pure 0
    | fuel + 1 => do
      match ← peek with
      | some x =>
        if isDigitByte x then
          let digit := x.toNat - 48
          if overflows sig digit maxWord then
            -- further digits cannot change the double's significand
            skipDigits
            match ← peek with
            | some 101 | some 69 => exponentPart positive sig (before + after)
            | _ => finish positive sig (before + after)
          else do
            bump
            go (sig * 10 + digit) (after - 1) fuel
        else fractionEnd positive sig before after
      | none => fractionEnd positive sig before after
  go significand 0 (c.bytes.size - c.pos + 1)

/-- The digits of an integer past the `u64` range: each shifts the exponent. -/
def longInteger (positive : Bool) (significand : Nat) : Reader Float := do
  let c ← get
  let rec go (e : Int) : Nat → Reader Float
    | 0 => pure 0
    | fuel + 1 => do
      match ← peek with
      | some x =>
        if isDigitByte x then do
          bump
          go (e + 1) fuel
        else if x == 46 then fraction positive significand e
        else if x == 101 || x == 69 then exponentPart positive significand e
        else finish positive significand e
      | none => finish positive significand e
  go 0 (c.bytes.size - c.pos + 1)

/-- What follows the integer part of a number. -/
def afterInteger (positive : Bool) (significand : Nat) : Reader JsonNumber := do
  match ← peek with
  | some 46 => .float <$> fraction positive significand 0
  | some 101 | some 69 => .float <$> exponentPart positive significand 0
  | _ =>
    if positive then pure (.nat significand)
    else if 1 ≤ significand ∧ significand ≤ Nat.pow 2 63 then pure (.neg (-(significand : Int)))
    else pure (.float (-(significand.toUInt64.toFloat)))

/-- A number, its minus sign (if any) taken. -/
def number (positive : Bool) : Reader JsonNumber := do
  match ← next with
  | none => fail .eofWhileParsingValue
  | some b =>
    if b == 48 then
      match ← peek with
      | some d => if isDigitByte d then failAhead .invalidNumber else afterInteger positive 0
      | none => afterInteger positive 0
    else if isDigitByte b then
      let c ← get
      let rec go (sig : Nat) : Nat → Reader JsonNumber
        | 0 => afterInteger positive sig
        | fuel + 1 => do
          match ← peek with
          | some d =>
            if isDigitByte d then
              let digit := d.toNat - 48
              if overflows sig digit maxWord then .float <$> longInteger positive sig
              else do
                bump
                go (sig * 10 + digit) fuel
            else afterInteger positive sig
          | none => afterInteger positive sig
      go (b.toNat - 48) (c.bytes.size - c.pos + 1)
    else fail .invalidNumber

/-- Skips an exponent part, its `e` not yet taken. -/
def skipExponent : Reader Unit := do
  bump
  match ← peek with
  | some 43 | some 45 => bump
  | _ => pure ()
  match ← next with
  | some d => if isDigitByte d then skipDigits else fail .invalidNumber
  | none => fail .invalidNumber

/-- Skips a number, its minus sign (if any) taken. -/
def skipNumber : Reader Unit := do
  match ← next with
  | some 48 =>
    match ← peek with
    | some d => if isDigitByte d then failAhead .invalidNumber else pure ()
    | none => pure ()
  | some d => if isDigitByte d then skipDigits else fail .invalidNumber
  | none => fail .invalidNumber
  match ← peek with
  | some 46 =>
    bump
    let c ← get
    skipDigits
    let c' ← get
    if c'.pos == c.pos then failAhead .invalidNumber
    else
      match ← peek with
      | some 101 | some 69 => skipExponent
      | _ => pure ()
  | some 101 | some 69 => skipExponent
  | _ => pure ()

/-! ## Arrays and objects -/

/-- Opens an array or object: one level less room, the bracket taken. -/
def enter : Reader Unit := do
  let c ← get
  if c.room ≤ 1 then
    set { c with room := 0 }
    failAhead .recursionLimitExceeded
  else set { c with room := c.room - 1, pos := c.pos + 1 }

/-- Gives back the level an array or object took. -/
def leave : Reader Unit := modify fun c => { c with room := c.room + 1 }

/-- Whether another item of an array follows; takes the comma before it. -/
def itemFollows (first : Bool) : Reader Bool := do
  let check (b : Option UInt8) : Reader Bool :=
    match b with
    | some 93 => failAhead .trailingComma
    | some _ => pure true
    | none => failAhead .eofWhileParsingValue
  match ← skipBlank with
  | some 93 => pure false
  | some 44 =>
    if first then check (some 44)
    else do
      bump
      check (← skipBlank)
  | some b => if first then check (some b) else failAhead .expectedListCommaOrEnd
  | none => failAhead .eofWhileParsingList

/-- Whether another member of an object follows; takes the comma before it and the quote
that opens its key. -/
def memberFollows (first : Bool) : Reader Bool := do
  let check (b : Option UInt8) : Reader Bool :=
    match b with
    | some 34 => do
      bump
      pure true
    | some 125 => failAhead .trailingComma
    | some _ => failAhead .keyMustBeAString
    | none => failAhead .eofWhileParsingValue
  match ← skipBlank with
  | some 125 => pure false
  | some 44 =>
    if first then check (some 44)
    else do
      bump
      check (← skipBlank)
  | some b => if first then check (some b) else failAhead .expectedObjectCommaOrEnd
  | none => failAhead .eofWhileParsingObject

/-- The colon between a key and its value. -/
def colon : Reader Unit := do
  match ← skipBlank with
  | some 58 => bump
  | some _ => failAhead .expectedColon
  | none => failAhead .eofWhileParsingObject

/-- Closes an array: the bracket is taken; a comma is taken before it is refused. -/
def closeArray : Reader Unit := do
  match ← skipBlank with
  | some 93 => bump
  | some 44 =>
    bump
    match ← skipBlank with
    | some 93 => failAhead .trailingComma
    | _ => failAhead .trailingCharacters
  | some _ => failAhead .expectedListCommaOrEnd
  | none => failAhead .eofWhileParsingList

/-- Closes an object: the brace is taken; anything else is refused where it stands. -/
def closeObject : Reader Unit := do
  match ← skipBlank with
  | some 125 => bump
  | some 44 => failAhead .trailingComma
  | some _ => failAhead .trailingCharacters
  | none => failAhead .eofWhileParsingObject

/-- Reads the inside of an array or object with `body`, then closes it even when `body`
failed, and places an error without a place where the closing left off. The first error
wins. -/
def bracketed {α : Type} (body : Reader α) (close : Reader Unit) : Reader α := do
  enter
  let r ← attempt body
  leave
  let e ← attempt close
  match r, e with
  | .ok v, .ok () => pure v
  | .error f, _ => throw (← place f)
  | .ok _, .error f => throw f

/-! ## Any value -/

mutual

/-- Reads any value. -/
def anyValue : Nat → Reader Json
  | 0 => fail .recursionLimitExceeded
  | fuel + 1 => do
    match ← skipBlank with
    | none => failAhead .eofWhileParsingValue
    | some b =>
      if b == 110 then do bump; expectWord restOfNull; pure .null
      else if b == 116 then do bump; expectWord restOfTrue; pure (.bool true)
      else if b == 102 then do bump; expectWord restOfFalse; pure (.bool false)
      else if b == 45 then do bump; pure (.number (← number false))
      else if isDigitByte b then do pure (.number (← number true))
      else if b == 34 then do bump; pure (.string (← stringBody))
      else if b == 91 then .array <$> bracketed (items fuel true) closeArray
      else if b == 123 then .object <$> bracketed (members fuel true) closeObject
      else failAhead .expectedSomeValue

/-- Reads the items of an array up to its closing bracket. -/
def items : Nat → Bool → Reader (List Json)
  | 0, _ => pure []
  | fuel + 1, first => do
    if ← itemFollows first then
      let v ← anyValue fuel
      let rest ← items fuel false
      pure (v :: rest)
    else pure []

/-- Reads the members of an object up to its closing brace. -/
def members : Nat → Bool → Reader (List (String × Json))
  | 0, _ => pure []
  | fuel + 1, first => do
    if ← memberFollows first then
      let k ← stringBody
      colon
      let v ← anyValue fuel
      let rest ← members fuel false
      pure ((k, v) :: rest)
    else pure []

end

/-- Reads any value, bounded by the length of the text. -/
def value : Reader Json := do
  let c ← get
  anyValue (2 * (c.bytes.size - c.pos) + 2)

/-! ## Skipping a value -/

mutual

/-- Skips values: `enclosing` is the innermost open bracket, `outer` the ones around it. -/
def skipOuter : Nat → Option UInt8 → List UInt8 → Reader Unit
  | 0, _, _ => pure ()
  | fuel + 1, enclosing, outer => do
    match ← skipBlank with
    | none => failAhead .eofWhileParsingValue
    | some b =>
      let opened : Option UInt8 ← do
        if b == 110 then do bump; expectWord restOfNull; pure none
        else if b == 116 then do bump; expectWord restOfTrue; pure none
        else if b == 102 then do bump; expectWord restOfFalse; pure none
        else if b == 45 then do bump; skipNumber; pure none
        else if isDigitByte b then do skipNumber; pure none
        else if b == 34 then do bump; skipString; pure none
        else if b == 91 || b == 123 then do bump; pure (some b)
        else failAhead .expectedSomeValue
      match opened with
      | some frame =>
        skipInner fuel false frame none (enclosing.toList ++ outer)
      | none =>
        match enclosing with
        | some frame => skipInner fuel true frame none outer
        | none =>
          match outer with
          | frame :: rest => skipInner fuel true frame none rest
          | [] => pure ()

/-- After a value or an opening bracket inside `frame`: a comma, or closing brackets. -/
def skipInner : Nat → Bool → UInt8 → Option UInt8 → List UInt8 → Reader Unit
  | 0, _, _, _, _ => pure ()
  | fuel + 1, acceptComma, frame, _, outer => do
    match ← skipBlank with
    | some 44 =>
      if acceptComma then do
        bump
        afterBreak fuel frame outer
      else afterBreak fuel frame outer
    | some b =>
      if (b == 93 && frame == 91) || (b == 125 && frame == 123) then do
        bump
        match outer with
        | f :: rest => skipInner fuel true f none rest
        | [] => pure ()
      else if acceptComma then
        failAhead (if frame == 91 then .expectedListCommaOrEnd else .expectedObjectCommaOrEnd)
      else afterBreak fuel frame outer
    | none => failAhead (if frame == 91 then .eofWhileParsingList else .eofWhileParsingObject)

/-- Before the next item of `frame`: in an object, its key and colon. -/
def afterBreak : Nat → UInt8 → List UInt8 → Reader Unit
  | 0, _, _ => pure ()
  | fuel + 1, frame, outer => do
    if frame == 123 then
      match ← skipBlank with
      | some 34 => bump
      | some _ => failAhead .keyMustBeAString
      | none => failAhead .eofWhileParsingObject
      skipString
      match ← skipBlank with
      | some 58 => bump
      | some _ => failAhead .expectedColon
      | none => failAhead .eofWhileParsingObject
    skipOuter fuel (some frame) outer

end

/-- Skips one value of any kind, checking it as it goes. -/
def skipValue : Reader Unit := do
  let c ← get
  skipOuter (4 * (c.bytes.size - c.pos) + 4) none []

/-- The end of a text: only blanks may follow the value. -/
def expectEnd : Reader Unit := do
  match ← skipBlank with
  | some _ => failAhead .trailingCharacters
  | none => pure ()

/-- Runs a reader over a whole text that must hold exactly one value. -/
def run {α : Type} (r : Reader α) (text : String) : Except ReadError α :=
  let bytes := text.toUTF8
  let start : Cursor := ⟨bytes, 0, 128⟩
  let whole : Reader α := do
    let v ← r
    expectEnd
    pure v
  match (StateT.run (ExceptT.run whole) start).1 with
  | .ok v => .ok v
  | .error f => .error (f.locate bytes)

end Reader

/-- Reads a JSON text as a value; objects keep their members in the order written. -/
def parse (text : String) : Except ReadError Json := Reader.run Reader.value text

end TenderClient.Json
