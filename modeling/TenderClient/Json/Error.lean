import TenderClient.Decode.Problem
/-!
# JSON reading errors

An error met while reading JSON text has a code and a place. The place is the byte offset
where reading stood; it is reported as a line (counted from one) and a column (the bytes
since the last line feed). An error that a decoder raises about a value it was handed has
no place of its own; the reader gives it the offset where the enclosing value ends.
-/

set_option autoImplicit false

namespace TenderClient.Json

/-- What went wrong while reading JSON. -/
inductive ErrorCode where
  /-- The text is fine as JSON, but the value does not decode. -/
  | problem (p : Decode.Problem)
  | eofWhileParsingList
  | eofWhileParsingObject
  | eofWhileParsingString
  | eofWhileParsingValue
  | expectedColon
  | expectedListCommaOrEnd
  | expectedObjectCommaOrEnd
  | expectedSomeIdent
  | expectedSomeValue
  | invalidEscape
  | invalidNumber
  | numberOutOfRange
  | invalidUnicodeCodePoint
  | controlCharacterWhileParsingString
  | keyMustBeAString
  | loneLeadingSurrogateInHexEscape
  | trailingComma
  | trailingCharacters
  | unexpectedEndOfHexEscape
  | recursionLimitExceeded

/-- The sentence for an error code. -/
def ErrorCode.text : ErrorCode → String
  | .problem p => p.text Decode.Wording.json
  | .eofWhileParsingList => "EOF while parsing a list"
  | .eofWhileParsingObject => "EOF while parsing an object"
  | .eofWhileParsingString => "EOF while parsing a string"
  | .eofWhileParsingValue => "EOF while parsing a value"
  | .expectedColon => "expected `:`"
  | .expectedListCommaOrEnd => "expected `,` or `]`"
  | .expectedObjectCommaOrEnd => "expected `,` or `\x7d`"
  | .expectedSomeIdent => "expected ident"
  | .expectedSomeValue => "expected value"
  | .invalidEscape => "invalid escape"
  | .invalidNumber => "invalid number"
  | .numberOutOfRange => "number out of range"
  | .invalidUnicodeCodePoint => "invalid unicode code point"
  | .controlCharacterWhileParsingString =>
    "control character (\\u0000-\\u001F) found while parsing a string"
  | .keyMustBeAString => "key must be a string"
  | .loneLeadingSurrogateInHexEscape => "lone leading surrogate in hex escape"
  | .trailingComma => "trailing comma"
  | .trailingCharacters => "trailing characters"
  | .unexpectedEndOfHexEscape => "unexpected end of hex escape"
  | .recursionLimitExceeded => "recursion limit exceeded"

/-- An error inside the reader: its code and, once known, the byte offset it is placed at. -/
structure Fault where
  code : ErrorCode
  offset : Option Nat

/-- An error as reported: its code and, when it has one, the line and column. -/
structure ReadError where
  code : ErrorCode
  place : Option (Nat × Nat)

/-- The line and column of a byte offset. -/
def placeOf (bytes : ByteArray) (offset : Nat) : Nat × Nat :=
  let before := (bytes.toList.take offset)
  let lineStart := (before.length - (before.reverse.takeWhile (· != 10)).length)
  (before.count 10 + 1, offset - lineStart)

/-- The error of a fault in a given text. -/
def Fault.locate (bytes : ByteArray) (f : Fault) : ReadError :=
  ⟨f.code, f.offset.map (placeOf bytes)⟩

/-- The sentence that reports an error, with its place when it has one. -/
def ReadError.message (e : ReadError) : String :=
  match e.place with
  | some (line, column) =>
    e.code.text ++ " at line " ++ Nat.repr line ++ " column " ++ Nat.repr column
  | none => e.code.text

end TenderClient.Json
