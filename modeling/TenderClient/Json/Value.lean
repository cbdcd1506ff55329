import TenderClient.Decimal.FloatText
/-!
# JSON values

A JSON value as read from a text. A number keeps the class the reader gave it: a
non-negative integer below `2^64`, a negative integer from `-2^63`, or a double for every
other number (a fraction, an exponent, an integer out of those ranges, or `-0`). Members
of an object keep the order written; `Json.field?` looks a key up as a map does, where the
last of equal keys counts, and `Json.sortMembers` gives the map's own order.

Texts are written as JSON writes them compactly (`Json.compact`) or indented by two spaces
(`Json.pretty`): a quote, a backslash and the control characters are escaped, the five
with short forms by them and the rest as `\u00XX` in lowercase hex; nothing else is.
-/

set_option autoImplicit false

namespace TenderClient

/-- A JSON number in the class the reader gives it. -/
inductive JsonNumber where
  /-- A non-negative integer below `2^64`. -/
  | nat (n : Nat)
  /-- A negative integer from `-2^63`. -/
  | neg (v : Int)
  /-- Any other number, as a double. -/
  | float (f : Float)

/-- A JSON value. -/
inductive Json where
  | null
  | bool (b : Bool)
  | number (n : JsonNumber)
  | string (s : String)
  | array (items : List Json)
  | object (members : List (String × Json))

/-- The text of a number; a double that is not finite is written `null`. -/
def JsonNumber.render : JsonNumber → String
  | .nat n => Nat.repr n
  | .neg v => toString v
  | .float f =>
    if f.isNaN || f.isInf then "null" else Decimal.renderFloat Decimal.FloatStyle.compact f

namespace Json

/-- The value of a key, as a map sees it: the last member with that key. -/
def field? (j : Json) (key : String) : Option Json :=
  match j with
  | object members => members.foldl (fun acc m => if m.1 = key then some m.2 else acc) none
  | _ => none

/-- Inserts a member into a list sorted by key, replacing a member with the same key. -/
def insertSorted (key : String) (v : Json) : List (String × Json) → List (String × Json)
  | [] => [(key, v)]
  | (k, w) :: rest =>
    if key = k then (key, v) :: rest
    else if key < k then (key, v) :: (k, w) :: rest
    else (k, w) :: insertSorted key v rest

/-- The members of an object in the order of their keys, the last of equal keys kept. -/
def sortMembers (members : List (String × Json)) : List (String × Json) :=
  members.foldl (fun acc m => insertSorted m.1 m.2 acc) []

mutual

/-- The map view of a value: the members of every object sorted by key, the last of equal
keys kept. -/
def normalize : Json → Json
  | array items => array (normalizeItems items)
  | object members => object (sortMembers (normalizeMembers members))
  | j => j

/-- The map view of each item. -/
def normalizeItems : List Json → List Json
  | [] => []
  | x :: rest => normalize x :: normalizeItems rest

/-- The map view of each member's value. -/
def normalizeMembers : List (String × Json) → List (String × Json)
  | [] => []
  | (k, v) :: rest => (k, normalize v) :: normalizeMembers rest

end

/-- A lowercase hexadecimal digit. -/
def hexDigit (n : Nat) : Char :=
  if n < 10 then Char.ofNat (48 + n) else Char.ofNat (87 + n)

/-- How one character is written inside a JSON string. -/
def escapeChar (c : Char) : List Char :=
  match c with
  | '"' => ['\\', '"']
  | '\\' => ['\\', '\\']
  | '\n' => ['\\', 'n']
  | '\r' => ['\\', 'r']
  | '\t' => ['\\', 't']
  | '\x08' => ['\\', 'b']
  | '\x0c' => ['\\', 'f']
  | c =>
    if c.toNat < 0x20 then ['\\', 'u', '0', '0', hexDigit (c.toNat / 16), hexDigit (c.toNat % 16)]
    else [c]

/-- A text as a JSON string literal. -/
def quote (s : String) : String :=
  String.ofList ('"' :: s.toList.flatMap escapeChar ++ ['"'])

mutual

/-- The compact text of a value: no blank anywhere. -/
def compact : Json → String
  | null => "null"
  | bool b => if b then "true" else "false"
  | number n => n.render
  | string s => quote s
  | array items => "[" ++ compactItems items ++ "]"
  | object members => "\x7b" ++ compactMembers members ++ "\x7d"

/-- Items separated by commas. -/
def compactItems : List Json → String
  | [] => ""
  | [x] => compact x
  | x :: rest => compact x ++ "," ++ compactItems rest

/-- Members separated by commas, each key and value joined by a colon. -/
def compactMembers : List (String × Json) → String
  | [] => ""
  | [(k, v)] => quote k ++ ":" ++ compact v
  | (k, v) :: rest => quote k ++ ":" ++ compact v ++ "," ++ compactMembers rest

end

/-- Two spaces per level of nesting. -/
def indentText (level : Nat) : String := String.ofList (List.replicate (2 * level) ' ')

mutual

/-- The indented text of a value at a nesting level: each item or member on a line of its
own, two spaces deeper than its brackets; empty brackets stay on one line. -/
def prettyAt (level : Nat) : Json → String
  | array [] => "[]"
  | object [] => "\x7b\x7d"
  | array items => "[\n" ++ prettyItems (level + 1) items ++ "\n" ++ indentText level ++ "]"
  | object members =>
    "\x7b\n" ++ prettyMembers (level + 1) members ++ "\n" ++ indentText level ++ "\x7d"
  | null => "null"
  | bool b => if b then "true" else "false"
  | number n => n.render
  | string s => quote s

/-- Items, one per line, at a nesting level. -/
def prettyItems (level : Nat) : List Json → String
  | [] => ""
  | [x] => indentText level ++ prettyAt level x
  | x :: rest => indentText level ++ prettyAt level x ++ ",\n" ++ prettyItems level rest

/-- Members, one per line, at a nesting level. -/
def prettyMembers (level : Nat) : List (String × Json) → String
  | [] => ""
  | [(k, v)] => indentText level ++ quote k ++ ": " ++ prettyAt level v
  | (k, v) :: rest =>
    indentText level ++ quote k ++ ": " ++ prettyAt level v ++ ",\n" ++ prettyMembers level rest

end

/-- The indented text of a value. -/
def pretty (j : Json) : String := prettyAt 0 j

end Json

end TenderClient
