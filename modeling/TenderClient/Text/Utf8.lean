/-!
# UTF-8

The bytes of a character in UTF-8, and the reading of bytes back into text: strictly (any
ill-formed sequence refuses the whole) or leniently (each ill-formed piece becomes the
replacement character U+FFFD, one per maximal piece that could begin a character).
Also the cutting of a text to a number of bytes at a character boundary.
-/

set_option autoImplicit false

namespace TenderClient.Text

/-- The UTF-8 bytes of a character. -/
def encodeChar (c : Char) : List UInt8 :=
  let n := c.toNat
  if n < 0x80 then [n.toUInt8]
  else if n < 0x800 then [(0xC0 + n / 64).toUInt8, (0x80 + n % 64).toUInt8]
  else if n < 0x10000 then
    [(0xE0 + n / 4096).toUInt8, (0x80 + n / 64 % 64).toUInt8, (0x80 + n % 64).toUInt8]
  else
    [(0xF0 + n / 262144).toUInt8, (0x80 + n / 4096 % 64).toUInt8,
      (0x80 + n / 64 % 64).toUInt8, (0x80 + n % 64).toUInt8]

/-- The UTF-8 bytes of a text. -/
def encode (s : String) : List UInt8 := s.toList.flatMap encodeChar

/-- Reads bytes as UTF-8 text, or `none` when they are not well formed. -/
def decode? (bytes : List UInt8) : Option String :=
  String.fromUTF8? (ByteArray.mk bytes.toArray)

/-- The range the second byte of a sequence must lie in, given its first byte. -/
def secondRange (b : Nat) : Nat × Nat :=
  if b == 0xE0 then (0xA0, 0xBF)
  else if b == 0xED then (0x80, 0x9F)
  else if b == 0xF0 then (0x90, 0xBF)
  else if b == 0xF4 then (0x80, 0x8F)
  else (0x80, 0xBF)

/-- The number of bytes a sequence with this first byte has, or zero for a byte that
begins none. -/
def sequenceLength (b : Nat) : Nat :=
  if b < 0x80 then 1
  else if 0xC2 ≤ b ∧ b ≤ 0xDF then 2
  else if 0xE0 ≤ b ∧ b ≤ 0xEF then 3
  else if 0xF0 ≤ b ∧ b ≤ 0xF4 then 4
  else 0

/-- How many bytes after the first continue a well-formed prefix of a sequence. -/
def validTail (first : Nat) (rest : List UInt8) (need : Nat) : Nat :=
  match need, rest with
  | 0, _ => 0
  | _, [] => 0
  | need + 1, b :: bs =>
    let (lo, hi) := secondRange first
    let bn := b.toNat
    -- the second byte has its own range; later ones are plain continuations
    if lo ≤ bn ∧ bn ≤ hi then 1 + validTail 0x80 bs need else 0

/-- Reads bytes as UTF-8 text, putting U+FFFD for each maximal ill-formed piece. -/
def decodeLossy (bytes : List UInt8) : String :=
  let rec go (bs : List UInt8) (acc : List Char) (fuel : Nat) : List Char :=
    match fuel, bs with
    | 0, _ => acc.reverse
    | _, [] => acc.reverse
    | fuel + 1, b :: rest =>
      let len := sequenceLength b.toNat
      if len == 1 then go rest (Char.ofNat b.toNat :: acc) fuel
      else if len == 0 then go rest ('\uFFFD' :: acc) fuel
      else
        let ok := validTail b.toNat rest (len - 1)
        if ok == len - 1 then
          match decode? (b :: rest.take ok) with
          | some s => go (rest.drop ok) (s.toList.reverse ++ acc) fuel
          | none => go (rest.drop ok) ('\uFFFD' :: acc) fuel
        else go (rest.drop ok) ('\uFFFD' :: acc) fuel
  String.ofList (go bytes [] (bytes.length + 1))

/-- The greatest character boundary of a text at or below a byte offset, found by stepping
down one byte at a time. Offset 0 is a boundary, so the steps end there at the latest. -/
def boundaryAtOrBelow (s : String) (cut : Nat) : s.Pos :=
  if h : (⟨cut⟩ : String.Pos.Raw).IsValid s then ⟨⟨cut⟩, h⟩
  else
    match cut with
    | 0 => s.startPos
    | below + 1 => boundaryAtOrBelow s below

/-- A text cut to at most `limit` bytes without splitting a character: the text itself when it
fits, else its bytes up to the greatest character boundary at or below the limit. -/
def truncateAtCharBoundary (limit : Nat) (s : String) : String :=
  if s.utf8ByteSize ≤ limit then s else s.extract s.startPos (boundaryAtOrBelow s limit)

end TenderClient.Text
