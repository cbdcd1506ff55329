import TenderClient.Yaml.Scalar

/-!
# Writing YAML

A writer for block mappings whose values are scalars or further block mappings, with no
line width limit and an indentation of two.

A text is written plain when it can be read back as the same text: not empty, not starting
or ending with a blank, with no indicator that would start another construct ("- ", ": ",
" #", a leading "[" and the like), no line break and no character outside the printable
set (which leaves out tab, carriage return, the other controls and a few noncharacters). Failing
that it is single-quoted, unless a blank borders a line break or a character is not
printable; then it is double-quoted with escapes. A text that would read back as something
else (null, a boolean, a number, digits with a leading zero) is single-quoted, and one with
a line feed is a literal block where it can be.
-/

set_option autoImplicit false

namespace TenderClient.Yaml

/-- The style asked for a scalar; `any` lets the text decide. -/
inductive Requested where
  | any
  | plain
  | singleQuoted
  | literal
deriving DecidableEq, Repr

/-- The style a scalar is written in. -/
inductive Written where
  | plain
  | singleQuoted
  | doubleQuoted
  | literal
deriving DecidableEq, Repr

/-- A node to write. -/
inductive Node where
  | scalar (text : String) (style : Requested)
  | mapping (entries : List (String × Node))

/-- What the characters of a text allow. -/
structure Allowed where
  multiline : Bool
  flowPlain : Bool
  blockPlain : Bool
  singleQuoted : Bool
  block : Bool
deriving Repr

namespace Write

/-- Line breaks. -/
def isBreak (c : Char) : Bool :=
  c == '\r' || c == '\n' || c == '\x85' || c == '\u2028' || c == '\u2029'

/-- Characters written as they are: line feed, printable ASCII, everything from U+00A0 on,
but for the byte order mark, U+FFFE and U+FFFF. -/
def isPrintable (c : Char) : Bool :=
  let n := c.toNat
  n == 0x0A || (0x20 ≤ n && n ≤ 0x7E) || (0xA0 ≤ n && n ≤ 0xD7FF) ||
    (0xE000 ≤ n && n ≤ 0xFFFD && n != 0xFEFF) || 0x10000 ≤ n

/-- A blank, a break, or the end. -/
def blankOrEnd : Option Char → Bool
  | none => true
  | some c => c == ' ' || c == '\t' || isBreak c

/-- What a scan of a text has seen so far: indicators that would start another construct in
flow or block context, line breaks, characters that are not printable, blanks and breaks at
either end or next to each other, and what the character before was. -/
structure Seen where
  flowIndicators : Bool
  blockIndicators : Bool
  lineBreaks : Bool := false
  special : Bool := false
  leadingSpace : Bool := false
  leadingBreak : Bool := false
  trailingSpace : Bool := false
  trailingBreak : Bool := false
  breakSpace : Bool := false
  spaceBreak : Bool := false
  precededByBlank : Bool := true
  previousSpace : Bool := false
  previousBreak : Bool := false

/-- Scans the character `c` at index `i` of a text of `n` characters, `next` the one after it.
Indicators count at the start of the text and after a blank; elsewhere only the flow
indicators, a colon before a blank and a hash after one do. -/
def Seen.step (n : Nat) (st : Seen) (c : Char) (i : Nat) (next : Option Char) : Seen :=
  let followedByBlank := blankOrEnd next
  let st := if i == 0 then
      let st := if "#,[]\x7b\x7d&*!|>'\"%@\x60".toList.contains c then
        { st with flowIndicators := true, blockIndicators := true } else st
      let st := if c == '?' || c == ':' then
        { st with flowIndicators := true, blockIndicators := st.blockIndicators || followedByBlank }
        else st
      if c == '-' && followedByBlank then
        { st with flowIndicators := true, blockIndicators := true } else st
    else
      let st := if ",?[]\x7b\x7d".toList.contains c then { st with flowIndicators := true } else st
      let st := if c == ':' then
        { st with flowIndicators := true, blockIndicators := st.blockIndicators || followedByBlank }
        else st
      if c == '#' && st.precededByBlank then
        { st with flowIndicators := true, blockIndicators := true } else st
  let st := if !isPrintable c then { st with special := true } else st
  let st := if isBreak c then { st with lineBreaks := true } else st
  let st := if c == ' ' then
      { st with leadingSpace := st.leadingSpace || i == 0,
                trailingSpace := st.trailingSpace || i + 1 == n,
                breakSpace := st.breakSpace || st.previousBreak,
                previousSpace := true, previousBreak := false }
    else if isBreak c then
      { st with leadingBreak := st.leadingBreak || i == 0,
                trailingBreak := st.trailingBreak || i + 1 == n,
                spaceBreak := st.spaceBreak || st.previousSpace,
                previousSpace := false, previousBreak := true }
    else { st with previousSpace := false, previousBreak := false }
  { st with precededByBlank := blankOrEnd (some c) }

/-- What the characters of a text allow. -/
def analyze (s : String) : Allowed :=
  let cs := s.toList.toArray
  let n := cs.size
  if n == 0 then
    { multiline := false, flowPlain := false, blockPlain := true, singleQuoted := true,
      block := false }
  else
    let marker := "---".toList.isPrefixOf s.toList || "...".toList.isPrefixOf s.toList
    let st := cs.toList.zipIdx.foldl (fun (st : Seen) (c, i) => st.step n c i cs[i + 1]?)
      { flowIndicators := marker, blockIndicators := marker }
    let edges := st.leadingSpace || st.leadingBreak || st.trailingSpace || st.trailingBreak
    let mixed := st.spaceBreak || st.special
    { multiline := st.lineBreaks
      flowPlain := !(edges || st.breakSpace || mixed || st.lineBreaks || st.flowIndicators)
      blockPlain := !(edges || st.breakSpace || mixed || st.lineBreaks || st.blockIndicators)
      singleQuoted := !(st.breakSpace || mixed)
      block := !(st.trailingSpace || mixed) }

/-- The style a scalar is written in, in block context, as a key or as a value. -/
def chooseStyle (requested : Requested) (text : String) (asKey : Bool) : Written :=
  let a := analyze text
  let first : Written := match requested with
    | .any | .plain => .plain
    | .singleQuoted => .singleQuoted
    | .literal => .literal
  let keyed := if asKey && a.multiline then .doubleQuoted else first
  let plainChecked :=
    if keyed == .plain && (!a.blockPlain || (text.isEmpty && asKey)) then .singleQuoted else keyed
  let quoteChecked :=
    if plainChecked == .singleQuoted && !a.singleQuoted then .doubleQuoted else plainChecked
  if quoteChecked == .literal && (!a.block || asKey) then .doubleQuoted else quoteChecked

/-- The style a text is asked to be written in: a literal block if it holds a line feed,
quotes if it would read back as something else than this text, else its own choice. -/
def requestFor (s : String) : Requested :=
  if s.toList.contains '\n' then .literal
  else match Scalar.untagged s with
    | .text _ => if Scalar.digitsButNotNumber s then .singleQuoted else .any
    | _ => .singleQuoted

/-- The escape of a character in double quotes. -/
def escape (c : Char) : String :=
  match c with
  | '\x00' => "\\0"
  | '\x07' => "\\a"
  | '\x08' => "\\b"
  | '\t' => "\\t"
  | '\n' => "\\n"
  | '\x0b' => "\\v"
  | '\x0c' => "\\f"
  | '\r' => "\\r"
  | '\x1b' => "\\e"
  | '"' => "\\\""
  | '\\' => "\\\\"
  | '\x85' => "\\N"
  | '\xa0' => "\\_"
  | '\u2028' => "\\L"
  | '\u2029' => "\\P"
  | _ =>
    let n := c.toNat
    let (letter, width) := if n ≤ 0xFF then ('x', 2) else if n ≤ 0xFFFF then ('u', 4) else ('U', 8)
    let digits := (List.range width).reverse.map fun k =>
      let d := (n >>> (4 * k)) % 16
      if d < 10 then Char.ofNat ('0'.toNat + d) else Char.ofNat ('A'.toNat + d - 10)
    "\\" ++ String.singleton letter ++ String.ofList digits

end Write

/-- The writer's state: the text so far, the column, whether the last thing written was a
blank or indentation, and the indentation levels. -/
structure Emitter where
  out : String := ""
  column : Nat := 0
  whitespace : Bool := true
  indention : Bool := true
  indent : Int := -1
  indents : List Int := []

namespace Emitter

/-- Writes one character of a line. -/
def put (e : Emitter) (c : Char) : Emitter :=
  { e with out := e.out.push c, column := e.column + 1 }

/-- Writes a line feed. -/
def putBreak (e : Emitter) : Emitter := { e with out := e.out.push '\n', column := 0 }

/-- Writes a line break of a text: a line feed as such, any other break as itself. -/
def writeBreak (e : Emitter) (c : Char) : Emitter :=
  if c == '\n' then e.putBreak else { e with out := e.out.push c, column := 0 }

/-- Starts a new line at the indentation, unless already there. -/
def writeIndent (e : Emitter) : Emitter :=
  let indent := e.indent.toNat
  let e := if !e.indention || e.column > indent || (e.column == indent && !e.whitespace)
    then e.putBreak else e
  let e := (List.range (indent - e.column)).foldl (fun e _ => e.put ' ') e
  { e with whitespace := true, indention := true }

/-- Writes an indicator, after a space if one is needed. -/
def writeIndicator (e : Emitter) (text : String) (needWhitespace isWhitespace isIndention : Bool) :
    Emitter :=
  let e := if needWhitespace && !e.whitespace then e.put ' ' else e
  let e := text.toList.foldl (fun e c => e.put c) e
  { e with whitespace := isWhitespace, indention := e.indention && isIndention }

/-- Opens an indentation level: two deeper, or at `atStart` for the first. -/
def increaseIndent (e : Emitter) (atStart : Int) : Emitter :=
  { e with indents := e.indent :: e.indents,
           indent := if e.indent < 0 then atStart else e.indent + 2 }

/-- Closes an indentation level. -/
def decreaseIndent (e : Emitter) : Emitter :=
  match e.indents with
  | [] => e
  | i :: rest => { e with indent := i, indents := rest }

/-- A plain scalar. -/
def writePlain (e : Emitter) (text : String) : Emitter :=
  let e := if !e.whitespace && !text.isEmpty then e.put ' ' else e
  let e := text.toList.foldl (fun e c => if Write.isBreak c then e.writeBreak c else e.put c) e
  { e with whitespace := false, indention := false }

/-- A single-quoted scalar: a quote inside is doubled, a line break starts an indented line. -/
def writeSingleQuoted (e : Emitter) (text : String) : Emitter := Id.run do
  let mut e := e.writeIndicator "'" true false false
  let mut breaks := false
  for c in text.toList do
    if c == ' ' then
      e := e.put c
    else if Write.isBreak c then
      if !breaks && c == '\n' then e := e.putBreak
      e := e.writeBreak c
      e := { e with indention := true }
      breaks := true
    else
      if breaks then e := e.writeIndent
      if c == '\'' then e := e.put '\''
      e := e.put c
      e := { e with indention := false }
      breaks := false
  if breaks then e := e.writeIndent
  e := e.writeIndicator "'" false false false
  return { e with whitespace := false, indention := false }

/-- A double-quoted scalar: breaks, quotes, backslashes, the byte order mark and characters
that are not printable are escaped. -/
def writeDoubleQuoted (e : Emitter) (text : String) : Emitter := Id.run do
  let mut e := e.writeIndicator "\"" true false false
  for c in text.toList do
    if !Write.isPrintable c || c == '\uFEFF' || Write.isBreak c || c == '"' || c == '\\' then
      e := (Write.escape c).toList.foldl (fun e d => e.put d) e
    else
      e := e.put c
  e := e.writeIndicator "\"" false false false
  return { e with whitespace := false, indention := false }

/-- The indentation and chomping hints of a literal block: an indentation digit when the
text starts with a blank or a break; "-" when it does not end with a break, "+" when it ends
with two (or is one break). -/
def blockHints (text : String) : String :=
  let cs := text.toList
  let indentHint := match cs.head? with
    | some c => if c == ' ' || Write.isBreak c then "2" else ""
    | none => ""
  let chomp := match cs.reverse with
    | [] => "-"
    | [c] => if Write.isBreak c then "+" else "-"
    | c :: d :: _ => if !Write.isBreak c then "-" else if Write.isBreak d then "+" else ""
  indentHint ++ chomp

/-- A literal block scalar. -/
def writeLiteral (e : Emitter) (text : String) : Emitter := Id.run do
  let mut e := e.writeIndicator "|" true false false
  e := e.writeIndicator (blockHints text) false false false
  e := e.putBreak
  e := { e with indention := true, whitespace := true }
  let mut breaks := true
  for c in text.toList do
    if Write.isBreak c then
      e := e.writeBreak c
      e := { e with indention := true }
      breaks := true
    else
      if breaks then e := e.writeIndent
      e := e.put c
      e := { e with indention := false }
      breaks := false
  return e

/-- A scalar, as a key or as a value. -/
def writeScalar (e : Emitter) (text : String) (style : Requested) (asKey : Bool) : Emitter :=
  let e := e.increaseIndent 2
  let e := match Write.chooseStyle style text asKey with
    | .plain => e.writePlain text
    | .singleQuoted => e.writeSingleQuoted text
    | .doubleQuoted => e.writeDoubleQuoted text
    | .literal => e.writeLiteral text
  e.decreaseIndent

mutual

/-- A node as the value of a mapping entry. -/
def writeValue (e : Emitter) : Node → Emitter
  | .scalar text style => e.writeScalar text style false
  | .mapping entries => (writeEntries (e.increaseIndent 0) entries).decreaseIndent

/-- The entries of a block mapping, one per line: key, colon, value. -/
def writeEntries (e : Emitter) : List (String × Node) → Emitter
  | [] => e
  | (key, value) :: rest =>
    let e := e.writeIndent
    let e := e.writeScalar key (Write.requestFor key) true
    let e := e.writeIndicator ":" false false false
    writeEntries (writeValue e value) rest

end

end Emitter

/-- A document holding one block mapping, ended by a line break. -/
def Node.document (entries : List (String × Node)) : String :=
  let e := ({} : Emitter).increaseIndent 0
  let e := (Emitter.writeEntries e entries).decreaseIndent
  e.writeIndent.out

/-- A text value, in the style its characters ask for. -/
def Node.text (s : String) : Node := .scalar s (Write.requestFor s)

/-- A number, always plain. -/
def Node.number (n : Nat) : Node := .scalar (Nat.repr n) .plain

end TenderClient.Yaml
