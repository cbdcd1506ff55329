import TenderClient.Yaml.Syntax

/-!
# YAML tokens

The scanner turns a YAML text into tokens: indicators, scalars, anchors, tags, directives,
and the block structure that indentation implies (the start and the end of block sequences
and mappings).

A plain or quoted scalar is known to be a key only when a ":" follows it on the same line.
The scanner keeps one key candidate per flow level; when the ":" comes, it inserts the key
token, and the start of a block mapping if the column opens one, in front of the scalar's
tokens. A token is handed out only when no candidate can still claim the head of the queue.

Every loop runs on fuel taken from the characters left, and each round either consumes a
character or leaves the loop.
-/

set_option autoImplicit false

namespace TenderClient.Yaml

/-- What a token is, with the text it carries. -/
inductive TokenKind where
  | streamStart
  | streamEnd
  | versionDirective (major minor : Nat)
  | tagDirective (handle tagPrefix : String)
  | documentStart
  | documentEnd
  | blockSequenceStart
  | blockMappingStart
  | blockEnd
  | flowSequenceStart
  | flowSequenceEnd
  | flowMappingStart
  | flowMappingEnd
  | blockEntry
  | flowEntry
  | key
  | value
  | alias (name : String)
  | anchor (name : String)
  | tag (handle suffix : String)
  | scalar (text : String) (style : ScalarStyle)
deriving Repr, DecidableEq

/-- A token and the marks where it starts and ends. -/
structure Token where
  kind : TokenKind
  start : Mark
  stop : Mark
deriving Repr

/-- A place where a key written without "?" may have begun, on one flow level. -/
structure KeyCandidate where
  possible : Bool := false
  /-- In block context a candidate at the indentation column must become a key. -/
  required : Bool := false
  /-- The number of the key's first token, counting the tokens already handed out. -/
  tokenNumber : Nat := 0
  mark : Mark := {}
deriving Repr

/-- The scanner's state: the text, the current mark and the queue of tokens not yet taken. -/
structure Scanner where
  input : Array Char
  mark : Mark := {}
  /-- A character refused before scanning begins. -/
  refusal : Option SyntaxError := none
  queue : List Token := []
  taken : Nat := 0
  ready : Bool := false
  started : Bool := false
  indent : Int := -1
  indents : List Int := []
  keyAllowed : Bool := false
  /-- One candidate per flow level, the innermost first. -/
  candidates : List KeyCandidate := []
  flowLevel : Nat := 0

/-- A step of the scanner, which may stop with a syntax error. -/
abbrev Scan := StateT Scanner (Except SyntaxError)

namespace Scanner

/-! ## Characters -/

/-- Line breaks: carriage return, line feed, next line, line and paragraph separators. -/
def isBreak (c : Char) : Bool :=
  c == '\r' || c == '\n' || c == '\x85' || c == '\u2028' || c == '\u2029'

/-- The two blanks: space and tab. -/
def isSpaceOrTab (c : Char) : Bool := c == ' ' || c == '\t'

/-- A line break or the end of the text. -/
def breakOrEnd : Option Char → Bool
  | none => true
  | some c => isBreak c

/-- A blank, a line break or the end of the text. -/
def blankOrEnd : Option Char → Bool
  | none => true
  | some c => isSpaceOrTab c || isBreak c

/-- Letters, digits, underscore and hyphen: the characters of anchors and tag handles. -/
def isWordChar (c : Char) : Bool := c.isAlphanum || c == '_' || c == '-'

/-- The characters of a tag, besides the escapes. -/
def isUriChar (verbatim : Bool) (c : Char) : Bool :=
  isWordChar c || ";/?:@&=+$.%!~*'()".toList.contains c || (verbatim && ",[]".toList.contains c)

/-- Hexadecimal digits of either case. -/
def isHexDigit (c : Char) : Bool :=
  c.isDigit || ('a' ≤ c && c ≤ 'f') || ('A' ≤ c && c ≤ 'F')

/-- The value of a hexadecimal digit. -/
def hexDigitValue (c : Char) : Nat :=
  if c.isDigit then c.toNat - '0'.toNat
  else if 'a' ≤ c && c ≤ 'f' then c.toNat - 'a'.toNat + 10
  else c.toNat - 'A'.toNat + 10

/-- Characters a YAML text may hold: tab, line feed, carriage return, the printable ASCII
range, next line, and the rest of Unicode but for surrogates, U+FFFE and U+FFFF. -/
def isAllowed (c : Char) : Bool :=
  let n := c.toNat
  n == 0x09 || n == 0x0A || n == 0x0D || (0x20 ≤ n && n ≤ 0x7E) || n == 0x85 ||
    (0xA0 ≤ n && n ≤ 0xD7FF) || (0xE000 ≤ n && n ≤ 0xFFFD) || 0x10000 ≤ n

/-- The byte offset of the first character that is not allowed. -/
def refusedAt (start : Nat) : List Char → Option Nat
  | [] => none
  | c :: rest => if isAllowed c then refusedAt (start + c.utf8Size) rest else some start

/-- A scanner at the start of a text; a leading byte order mark is dropped. -/
def ofString (text : String) : Scanner :=
  let (chars, offset) := match text.toList with
    | '\uFEFF' :: rest => (rest, 3)
    | chars => (chars, 0)
  let refusal := (refusedAt offset chars).map fun at_ =>
    { problem := "control characters are not allowed", offset := at_ }
  { input := chars.toArray, refusal }

/-! ## Moving through the text -/

/-- The character `k` places ahead. -/
def peekAt (k : Nat) : Scan (Option Char) := do
  let s ← get
  return s.input[s.mark.index + k]?

/-- The current character. -/
def current : Scan (Option Char) := peekAt 0

/-- Fuel for a loop: more rounds than characters left. -/
def room : Scan Nat := do
  let s ← get
  return s.input.size - s.mark.index + 2

/-- Steps over one character of a line. -/
def skip : Scan Unit :=
  modify fun s => { s with mark := { s.mark with index := s.mark.index + 1, column := s.mark.column + 1 } }

/-- Steps over a line break of `width` characters. -/
def newLine (width : Nat) : Scan Unit :=
  modify fun s => { s with mark := { index := s.mark.index + width, line := s.mark.line + 1, column := 0 } }

/-- Steps over a line break; a carriage return and a line feed count as one. -/
def skipBreak : Scan Unit := do
  let c0 ← peekAt 0
  let c1 ← peekAt 1
  if c0 == some '\r' && c1 == some '\n' then newLine 2
  else if c0.any isBreak then newLine 1

/-- Steps over a line break and gives the text it stands for: a line feed, or the line or
paragraph separator itself. -/
def readBreak : Scan String := do
  let c0 ← peekAt 0
  let c1 ← peekAt 1
  match c0 with
  | some '\r' =>
    newLine (if c1 == some '\n' then 2 else 1)
    return "\n"
  | some '\n' => do newLine 1; return "\n"
  | some '\x85' => do newLine 1; return "\n"
  | some '\u2028' => do newLine 1; return "\u2028"
  | some '\u2029' => do newLine 1; return "\u2029"
  | _ => return ""

/-- Steps over spaces and tabs. -/
def skipBlanks : Scan Unit := do
  for _ in [0:(← room)] do
    if (← current).any isSpaceOrTab then skip else break

/-- Steps over the rest of a line, up to its break. -/
def skipToBreak : Scan Unit := do
  for _ in [0:(← room)] do
    if breakOrEnd (← current) then break
    skip

/-- Stops with a problem at the current mark. -/
def fail {α : Type} (context : Option String) (contextMark : Mark) (problem : String) : Scan α := do
  let s ← get
  throw { problem, problemMark := s.mark, context, contextMark }

/-- Whether the current line starts with a document marker, "---" or "...". -/
def atDocumentMarker : Scan Bool := do
  let s ← get
  if s.mark.column != 0 then return false
  let c0 ← peekAt 0
  let c1 ← peekAt 1
  let c2 ← peekAt 2
  let c3 ← peekAt 3
  return ((c0 == some '-' && c1 == some '-' && c2 == some '-') ||
    (c0 == some '.' && c1 == some '.' && c2 == some '.')) && blankOrEnd c3

/-! ## The queue, key candidates and indentation -/

/-- Puts a token at the end of the queue. -/
def push (t : Token) : Scan Unit := modify fun s => { s with queue := s.queue ++ [t] }

/-- Candidates on an earlier line, or more than 1024 characters back, can no longer be keys;
a required one is an error. -/
def staleCandidates : Scan Unit := do
  let s ← get
  let refresh (k : KeyCandidate) : Except SyntaxError KeyCandidate :=
    if k.possible && (k.mark.line < s.mark.line || k.mark.index + 1024 < s.mark.index) then
      if k.required then
        .error { problem := "could not find expected ':'", problemMark := s.mark,
                 context := some "while scanning a simple key", contextMark := k.mark }
      else .ok { k with possible := false }
    else .ok k
  match s.candidates.reverse.mapM refresh with
  | .ok ks => set { s with candidates := ks.reverse }
  | .error e => throw e

/-- Gives up the candidate of the current flow level; a required one is an error. -/
def dropCandidate : Scan Unit := do
  let s ← get
  match s.candidates with
  | [] => pure ()
  | k :: rest =>
    if k.possible && k.required then
      fail (some "while scanning a simple key") k.mark "could not find expected ':'"
    else
      set { s with candidates := { k with possible := false } :: rest }

/-- Records the current place as where a key may begin, if a key may begin here. -/
def saveCandidate : Scan Unit := do
  let s ← get
  if s.keyAllowed then
    let k : KeyCandidate :=
      { possible := true, required := s.flowLevel == 0 && s.indent == (s.mark.column : Int),
        tokenNumber := s.taken + s.queue.length, mark := s.mark }
    dropCandidate
    modify fun s => { s with candidates := k :: s.candidates.drop 1 }

/-- Opens a flow level with a fresh candidate. -/
def enterFlow : Scan Unit :=
  modify fun s => { s with candidates := {} :: s.candidates, flowLevel := s.flowLevel + 1 }

/-- Closes a flow level. -/
def leaveFlow : Scan Unit :=
  modify fun s =>
    if s.flowLevel = 0 then s
    else { s with flowLevel := s.flowLevel - 1, candidates := s.candidates.drop 1 }

/-- In block context, a column deeper than the indentation opens a block: the token `kind`
goes at the end of the queue, or before the token numbered `number`. -/
def rollIndent (column : Nat) (number : Option Nat) (kind : TokenKind) (mark : Mark) :
    Scan Unit := do
  let s ← get
  if s.flowLevel == 0 && s.indent < (column : Int) then
    let t : Token := { kind, start := mark, stop := mark }
    let queue := match number with
      | none => s.queue ++ [t]
      | some n => s.queue.take (n - s.taken) ++ t :: s.queue.drop (n - s.taken)
    set { s with indents := s.indent :: s.indents, indent := column, queue }

/-- Closes the blocks deeper than `column`, one block end each. -/
def closeBlocks (column : Int) (mark : Mark) :
    Int → List Int → List Token → Int × List Int × List Token
  | indent, [], out => (indent, [], out)
  | indent, i :: rest, out =>
    if column < indent then
      closeBlocks column mark i rest (out ++ [{ kind := .blockEnd, start := mark, stop := mark }])
    else (indent, i :: rest, out)

/-- In block context, ends every block deeper than `column`. -/
def unrollIndent (column : Int) : Scan Unit := do
  let s ← get
  if s.flowLevel == 0 then
    let (indent, indents, ends) := closeBlocks column s.mark s.indent s.indents []
    set { s with indent, indents, queue := s.queue ++ ends }

/-- Steps over blanks, comments and line breaks up to the next token. Tabs are blanks in
flow context and where no key may begin; a line break in block context allows a key. -/
def skipToToken : Scan Unit := do
  for _ in [0:(← room)] do
    if (← get).mark.column == 0 && (← current) == some '\uFEFF' then skip
    for _ in [0:(← room)] do
      let s ← get
      let c ← current
      if c == some ' ' || ((s.flowLevel > 0 || !s.keyAllowed) && c == some '\t') then skip
      else break
    if (← current) == some '#' then skipToBreak
    if (← current).any isBreak then
      skipBreak
      if (← get).flowLevel == 0 then modify fun s => { s with keyAllowed := true }
    else break

/-! ## Scalars -/

/-- The text of a plain scalar. It ends before ": " or " #", at a document marker, before a
flow indicator in flow context, or at a line less indented than the block. Line breaks fold:
one break is a space, more keep all but the first. -/
def scanPlain : Scan Token := do
  let s0 ← get
  let indent := s0.indent + 1
  let start := s0.mark
  let mut stop := start
  let mut text := ""
  let mut leadingBreak := ""
  let mut trailingBreaks := ""
  let mut spaces := ""
  let mut leadingBlanks := false
  for _ in [0:(← room)] do
    if ← atDocumentMarker then break
    if (← current) == some '#' then break
    for _ in [0:(← room)] do
      let c0 ← peekAt 0
      if blankOrEnd c0 then break
      let c1 ← peekAt 1
      let flow := (← get).flowLevel > 0
      if flow && c0 == some ':' && c1.any (",?[]\x7b\x7d".toList.contains ·) then
        fail (some "while scanning a plain scalar") start "found unexpected ':'"
      if (c0 == some ':' && blankOrEnd c1) || (flow && c0.any (",[]\x7b\x7d".toList.contains ·)) then break
      if leadingBlanks || !spaces.isEmpty then
        if leadingBlanks then
          if leadingBreak == "\n" then
            if trailingBreaks.isEmpty then text := text.push ' '
            else
              text := text ++ trailingBreaks
              trailingBreaks := ""
            leadingBreak := ""
          else
            text := text ++ leadingBreak ++ trailingBreaks
            leadingBreak := ""
            trailingBreaks := ""
          leadingBlanks := false
        else
          text := text ++ spaces
          spaces := ""
      if let some c := c0 then text := text.push c
      skip
      stop := (← get).mark
    let c ← current
    if !(c.any isSpaceOrTab || c.any isBreak) then break
    for _ in [0:(← room)] do
      let c ← current
      match c with
      | some ch =>
        if isSpaceOrTab ch then
          if leadingBlanks && ((← get).mark.column : Int) < indent && ch == '\t' then
            fail (some "while scanning a plain scalar") start
              "found a tab character that violates indentation"
          if !leadingBlanks then spaces := spaces.push ch
          skip
        else if isBreak ch then
          if !leadingBlanks then
            spaces := ""
            leadingBreak ← readBreak
            leadingBlanks := true
          else
            trailingBreaks := trailingBreaks ++ (← readBreak)
        else break
      | none => break
    let s ← get
    if s.flowLevel == 0 && (s.mark.column : Int) < indent then break
  if leadingBlanks then modify fun s => { s with keyAllowed := true }
  return { kind := .scalar text .plain, start, stop }

/-- The character a one-letter escape of a double-quoted scalar stands for. -/
def simpleEscape : Char → Option Char
  | '0' => some '\x00'
  | 'a' => some '\x07'
  | 'b' => some '\x08'
  | 't' => some '\t'
  | '\t' => some '\t'
  | 'n' => some '\n'
  | 'v' => some '\x0b'
  | 'f' => some '\x0c'
  | 'r' => some '\r'
  | 'e' => some '\x1b'
  | ' ' => some ' '
  | '"' => some '"'
  | '/' => some '/'
  | '\'' => some '\''
  | '\\' => some '\\'
  | 'N' => some '\x85'
  | '_' => some '\xa0'
  | 'L' => some '\u2028'
  | 'P' => some '\u2029'
  | _ => none

/-- The number of hexadecimal digits after an escape letter that takes a code. -/
def escapeWidth : Char → Nat
  | 'x' => 2
  | 'u' => 4
  | 'U' => 8
  | _ => 0

/-- Reads an escape of a double-quoted scalar, standing at its backslash. -/
def readEscape (start : Mark) : Scan Char := do
  let e ← peekAt 1
  let simple := e.bind simpleEscape
  let width := e.elim 0 escapeWidth
  if simple.isNone && width == 0 then
    fail (some "while parsing a quoted scalar") start "found unknown escape character"
  skip
  skip
  match simple with
  | some c => return c
  | none =>
    let mut code := 0
    for k in [0:width] do
      match ← peekAt k with
      | some d =>
        if isHexDigit d then code := code * 16 + hexDigitValue d
        else fail (some "while parsing a quoted scalar") start "did not find expected hexdecimal number"
      | none => fail (some "while parsing a quoted scalar") start "did not find expected hexdecimal number"
    if (0xD800 ≤ code && code ≤ 0xDFFF) || 0x10FFFF < code then
      fail (some "while parsing a quoted scalar") start "found invalid Unicode character escape code"
    for _ in [0:width] do skip
    return Char.ofNat code

/-- The text of a single- or double-quoted scalar. Line breaks fold as in plain scalars;
in double quotes a backslash escapes a character or a line break. -/
def scanQuoted (single : Bool) : Scan Token := do
  let start := (← get).mark
  skip
  let quote := if single then '\'' else '"'
  let mut text := ""
  let mut leadingBreak := ""
  let mut trailingBreaks := ""
  let mut spaces := ""
  for _ in [0:(← room)] do
    if ← atDocumentMarker then
      fail (some "while scanning a quoted scalar") start "found unexpected document indicator"
    if (← current).isNone then
      fail (some "while scanning a quoted scalar") start "found unexpected end of stream"
    let mut leadingBlanks := false
    for _ in [0:(← room)] do
      let c0 ← peekAt 0
      if blankOrEnd c0 then break
      let c1 ← peekAt 1
      if single && c0 == some '\'' && c1 == some '\'' then
        text := text.push '\''
        skip
        skip
      else if c0 == some quote then break
      else if !single && c0 == some '\\' && c1.any isBreak then
        skip
        skipBreak
        leadingBlanks := true
        break
      else if !single && c0 == some '\\' then
        text := text.push (← readEscape start)
      else
        if let some c := c0 then text := text.push c
        skip
    if (← current) == some quote then break
    for _ in [0:(← room)] do
      match ← current with
      | some ch =>
        if isSpaceOrTab ch then
          if !leadingBlanks then spaces := spaces.push ch
          skip
        else if isBreak ch then
          if !leadingBlanks then
            spaces := ""
            leadingBreak ← readBreak
            leadingBlanks := true
          else
            trailingBreaks := trailingBreaks ++ (← readBreak)
        else break
      | none => break
    if leadingBlanks then
      if leadingBreak == "\n" then
        if trailingBreaks.isEmpty then text := text.push ' '
        else
          text := text ++ trailingBreaks
          trailingBreaks := ""
        leadingBreak := ""
      else
        text := text ++ leadingBreak ++ trailingBreaks
        leadingBreak := ""
        trailingBreaks := ""
    else
      text := text ++ spaces
      spaces := ""
  skip
  let stop := (← get).mark
  return { kind := .scalar text (if single then .singleQuoted else .doubleQuoted), start, stop }

/-- Steps over the indentation and the empty lines before a line of a block scalar,
collecting the breaks. Without a given indentation, the deepest of these lines sets it,
but never less than one more than the enclosing block, nor less than one. -/
def blockBreaks (indent : Nat) (breaks : String) (start : Mark) : Scan (Nat × String × Mark) := do
  let mut stop := (← get).mark
  let mut deepest := 0
  let mut breaks := breaks
  for _ in [0:(← room)] do
    for _ in [0:(← room)] do
      if (indent == 0 || (← get).mark.column < indent) && (← current) == some ' ' then skip
      else break
    let column := (← get).mark.column
    if column > deepest then deepest := column
    if (indent == 0 || column < indent) && (← current) == some '\t' then
      fail (some "while scanning a block scalar") start
        "found a tab character where an indentation space is expected"
    if !(← current).any isBreak then break
    breaks := breaks ++ (← readBreak)
    stop := (← get).mark
  let outer := ((← get).indent + 1).toNat
  let indent := if indent == 0 then max (max deepest outer) 1 else indent
  return (indent, breaks, stop)

/-- The text of a literal or folded block scalar, after its header of chomping and
indentation indicators. -/
def scanBlock (literal : Bool) : Scan Token := do
  let start := (← get).mark
  skip
  let mut chomping : Int := 0
  let mut increment := 0
  let c ← current
  if c == some '+' || c == some '-' then
    chomping := if c == some '+' then 1 else -1
    skip
    let d ← current
    if d.any Char.isDigit then
      if d == some '0' then
        fail (some "while scanning a block scalar") start "found an indentation indicator equal to 0"
      increment := d.elim 0 hexDigitValue
      skip
  else if c.any Char.isDigit then
    if c == some '0' then
      fail (some "while scanning a block scalar") start "found an indentation indicator equal to 0"
    increment := c.elim 0 hexDigitValue
    skip
    let d ← current
    if d == some '+' || d == some '-' then
      chomping := if d == some '+' then 1 else -1
      skip
  skipBlanks
  if (← current) == some '#' then skipToBreak
  if !breakOrEnd (← current) then
    fail (some "while scanning a block scalar") start "did not find expected comment or line break"
  if (← current).any isBreak then skipBreak
  let enclosing := (← get).indent
  let mut indent : Nat :=
    if increment == 0 then 0
    else if enclosing ≥ 0 then (enclosing + increment).toNat else increment
  let mut text := ""
  let mut leadingBreak := ""
  let mut leadingBlank := false
  let (i, b, m) ← blockBreaks indent "" start
  indent := i
  let mut trailingBreaks := b
  let mut stop := m
  for _ in [0:(← room)] do
    let c ← current
    if !((← get).mark.column == indent && c.isSome) then break
    let trailingBlank := c.any isSpaceOrTab
    if !literal && leadingBreak == "\n" && !leadingBlank && !trailingBlank then
      if trailingBreaks.isEmpty then text := text.push ' '
      leadingBreak := ""
    else
      text := text ++ leadingBreak
      leadingBreak := ""
    text := text ++ trailingBreaks
    trailingBreaks := ""
    leadingBlank := c.any isSpaceOrTab
    for _ in [0:(← room)] do
      match ← current with
      | some ch =>
        if isBreak ch then break
        text := text.push ch
        skip
      | none => break
    leadingBreak ← readBreak
    let (i, b, m) ← blockBreaks indent "" start
    indent := i
    trailingBreaks := b
    stop := m
  if chomping != -1 then text := text ++ leadingBreak
  if chomping == 1 then text := text ++ trailingBreaks
  return { kind := .scalar text (if literal then .literal else .folded), start, stop }

/-! ## Anchors, tags and directives -/

/-- An anchor or an alias: a name of word characters, followed by a blank or an indicator. -/
def scanAnchor (isAlias : Bool) : Scan Token := do
  let start := (← get).mark
  skip
  let mut name := ""
  for _ in [0:(← room)] do
    match ← current with
    | some c =>
      if isWordChar c then
        name := name.push c
        skip
      else break
    | none => break
  let stop := (← get).mark
  let c ← current
  if name.isEmpty || !(blankOrEnd c || c.any ("?:,]\x7d%@\x60".toList.contains ·)) then
    fail (some (if isAlias then "while scanning an alias" else "while scanning an anchor")) start
      "did not find expected alphabetic or numeric character"
  return { kind := if isAlias then .alias name else .anchor name, start, stop }

/-- Reads an escaped octet sequence "%XX" of a tag, one UTF-8 character's worth. -/
def readUriEscapes (directive : Bool) (start : Mark) : Scan (List UInt8) := do
  let context := some (if directive then "while parsing a %TAG directive" else "while parsing a tag")
  let mut width := 0
  let mut octets : List UInt8 := []
  for _ in [0:4] do
    let c0 ← peekAt 0
    let c1 ← peekAt 1
    let c2 ← peekAt 2
    match c0, c1, c2 with
    | some '%', some h, some l =>
      if !(isHexDigit h && isHexDigit l) then
        fail context start "did not find URI escaped octet"
      let octet := hexDigitValue h * 16 + hexDigitValue l
      if width == 0 then
        width :=
          if octet &&& 0x80 == 0 then 1
          else if octet &&& 0xE0 == 0xC0 then 2
          else if octet &&& 0xF0 == 0xE0 then 3
          else if octet &&& 0xF8 == 0xF0 then 4
          else 0
        if width == 0 then fail context start "found an incorrect leading UTF-8 octet"
      else if octet &&& 0xC0 != 0x80 then
        fail context start "found an incorrect trailing UTF-8 octet"
      octets := octets ++ [octet.toUInt8]
      skip
      skip
      skip
      width := width - 1
      if width == 0 then break
    | _, _, _ => fail context start "did not find URI escaped octet"
  return octets

/-- The text of a tag's URI part; `head` is a handle already read that turned out to belong
to it (without its leading "!"). -/
def scanTagUri (verbatim directive : Bool) (head : String) (start : Mark) : Scan String := do
  let mut bytes : List UInt8 := (head.drop 1).toString.toUTF8.toList
  let mut length := head.length
  for _ in [0:(← room)] do
    match ← current with
    | some c =>
      if !isUriChar verbatim c then break
      if c == '%' then bytes := bytes ++ (← readUriEscapes directive start)
      else
        bytes := bytes ++ (String.singleton c).toUTF8.toList
        skip
      length := length + 1
    | none => break
  if length == 0 then
    fail (some (if directive then "while parsing a %TAG directive" else "while parsing a tag")) start
      "did not find expected tag URI"
  return (String.fromUTF8? (ByteArray.mk bytes.toArray)).getD ""

/-- A tag handle: "!", "!!" or "!word!"; in a tag, a "!word" without the closing "!" is
given back whole for the URI to continue. -/
def scanTagHandle (directive : Bool) (start : Mark) : Scan String := do
  if (← current) != some '!' then
    fail (some (if directive then "while scanning a tag directive" else "while scanning a tag")) start
      "did not find expected '!'"
  skip
  let mut handle := "!"
  for _ in [0:(← room)] do
    match ← current with
    | some c =>
      if isWordChar c then
        handle := handle.push c
        skip
      else break
    | none => break
  if (← current) == some '!' then
    handle := handle.push '!'
    skip
  else if directive && handle != "!" then
    fail (some "while parsing a tag directive") start "did not find expected '!'"
  return handle

/-- A tag: verbatim "!<uri>", or a handle and a suffix, or "!" alone. -/
def scanTag : Scan Token := do
  let start := (← get).mark
  let mut handle := ""
  let mut suffix := ""
  if (← peekAt 1) == some '<' then
    skip
    skip
    suffix ← scanTagUri true false "" start
    if (← current) != some '>' then
      fail (some "while scanning a tag") start "did not find the expected '>'"
    skip
  else
    let first ← scanTagHandle false start
    if first.length > 1 && first.startsWith "!" && first.endsWith "!" then
      handle := first
      suffix ← scanTagUri false false "" start
    else
      suffix ← scanTagUri false false first start
      handle := "!"
      if suffix.isEmpty then
        handle := ""
        suffix := "!"
  let c ← current
  if !blankOrEnd c then
    if (← get).flowLevel == 0 || c != some ',' then
      fail (some "while scanning a tag") start "did not find expected whitespace or line break"
  return { kind := .tag handle suffix, start, stop := (← get).mark }

/-- A number of a "%YAML" directive, at most nine digits. -/
def versionNumber (start : Mark) : Scan Nat := do
  let mut value := 0
  let mut length := 0
  for _ in [0:(← room)] do
    match ← current with
    | some c =>
      if !c.isDigit then break
      length := length + 1
      if length > 9 then
        fail (some "while scanning a %YAML directive") start "found extremely long version number"
      value := value * 10 + (c.toNat - '0'.toNat)
      skip
    | none => break
  if length == 0 then
    fail (some "while scanning a %YAML directive") start "did not find expected version number"
  return value

/-- A directive line: "%YAML major.minor" or "%TAG handle prefix". -/
def scanDirective : Scan Token := do
  let start := (← get).mark
  skip
  let mut name := ""
  for _ in [0:(← room)] do
    match ← current with
    | some c =>
      if isWordChar c then
        name := name.push c
        skip
      else break
    | none => break
  if name.isEmpty then
    fail (some "while scanning a directive") start "could not find expected directive name"
  if !blankOrEnd (← current) then
    fail (some "while scanning a directive") start "found unexpected non-alphabetical character"
  let mut kind := TokenKind.documentStart
  if name == "YAML" then
    skipBlanks
    let major ← versionNumber start
    if (← current) != some '.' then
      fail (some "while scanning a %YAML directive") start "did not find expected digit or '.' character"
    skip
    let minor ← versionNumber start
    kind := .versionDirective major minor
  else if name == "TAG" then
    skipBlanks
    let handle ← scanTagHandle true start
    if !(← current).any isSpaceOrTab then
      fail (some "while scanning a %TAG directive") start "did not find expected whitespace"
    skipBlanks
    let uri ← scanTagUri true true "" start
    if !blankOrEnd (← current) then
      fail (some "while scanning a %TAG directive") start "did not find expected whitespace or line break"
    kind := .tagDirective handle uri
  else
    fail (some "while scanning a directive") start "found unknown directive name"
  let stop := (← get).mark
  skipBlanks
  if (← current) == some '#' then skipToBreak
  if !breakOrEnd (← current) then
    fail (some "while scanning a directive") start "did not find expected comment or line break"
  if (← current).any isBreak then skipBreak
  return { kind, start, stop }

/-! ## Fetching tokens -/

/-- Forbids a key here. -/
def forbidKey : Scan Unit := modify fun s => { s with keyAllowed := false }

/-- Allows a key here. -/
def allowKey (allowed : Bool := true) : Scan Unit := modify fun s => { s with keyAllowed := allowed }

/-- Queues a one- or three-character indicator token. -/
def indicator (kind : TokenKind) (width : Nat) : Scan Unit := do
  let start := (← get).mark
  for _ in [0:width] do skip
  push { kind, start, stop := (← get).mark }

/-- The end of the text: a final line is ended, all blocks closed. -/
def fetchStreamEnd : Scan Unit := do
  let s ← get
  if s.mark.column != 0 then
    set { s with mark := { s.mark with column := 0, line := s.mark.line + 1 } }
  unrollIndent (-1)
  dropCandidate
  forbidKey
  let m := (← get).mark
  push { kind := .streamEnd, start := m, stop := m }

/-- A directive or a document marker closes every block first. -/
def fetchDocumentLevel (body : Scan Unit) : Scan Unit := do
  unrollIndent (-1)
  dropCandidate
  forbidKey
  body

/-- "[" or "{": may start a key, and opens a flow level. -/
def fetchFlowStart (kind : TokenKind) : Scan Unit := do
  saveCandidate
  enterFlow
  allowKey
  indicator kind 1

/-- "]" or "}": closes a flow level. -/
def fetchFlowEnd (kind : TokenKind) : Scan Unit := do
  dropCandidate
  leaveFlow
  forbidKey
  indicator kind 1

/-- ",": separates flow entries. -/
def fetchFlowEntry : Scan Unit := do
  dropCandidate
  allowKey
  indicator .flowEntry 1

/-- "-": an entry of a block sequence, which it may open. -/
def fetchBlockEntry : Scan Unit := do
  let s ← get
  if s.flowLevel == 0 then
    if !s.keyAllowed then fail none s.mark "block sequence entries are not allowed in this context"
    rollIndent s.mark.column none .blockSequenceStart s.mark
  dropCandidate
  allowKey
  indicator .blockEntry 1

/-- "?": an explicit key, which may open a block mapping. -/
def fetchKey : Scan Unit := do
  let s ← get
  if s.flowLevel == 0 then
    if !s.keyAllowed then fail none s.mark "mapping keys are not allowed in this context"
    rollIndent s.mark.column none .blockMappingStart s.mark
  dropCandidate
  allowKey ((← get).flowLevel == 0)
  indicator .key 1

/-- ":": a value. If a candidate stands on this level, it becomes a key, and the mapping
opens at its column. -/
def fetchValue : Scan Unit := do
  let s ← get
  match s.candidates with
  | k :: rest =>
    if k.possible then
      let keyToken : Token := { kind := .key, start := k.mark, stop := k.mark }
      let n := k.tokenNumber - s.taken
      set { s with queue := s.queue.take n ++ keyToken :: s.queue.drop n,
                   candidates := { k with possible := false } :: rest }
      rollIndent k.mark.column (some k.tokenNumber) .blockMappingStart k.mark
      forbidKey
    else complexValue s
  | [] => complexValue s
  indicator .value 1
where
  complexValue (s : Scanner) : Scan Unit := do
    if s.flowLevel == 0 then
      if !s.keyAllowed then fail none s.mark "mapping values are not allowed in this context"
      rollIndent s.mark.column none .blockMappingStart s.mark
    allowKey (s.flowLevel == 0)

/-- The next token or tokens: one step of the scanner. -/
def fetchNext : Scan Unit := do
  if !(← get).started then
    if let some e := (← get).refusal then throw e
    modify fun s => { s with indent := -1, candidates := [{}], keyAllowed := true, started := true }
    let m := (← get).mark
    push { kind := .streamStart, start := m, stop := m }
    return
  skipToToken
  staleCandidates
  unrollIndent (← get).mark.column
  let s ← get
  let c1 ← peekAt 1
  let flow := s.flowLevel > 0
  match ← current with
  | none => fetchStreamEnd
  | some c =>
    if s.mark.column == 0 && c == '%' then
      fetchDocumentLevel (do push (← scanDirective))
    else if (← atDocumentMarker) && c == '-' then
      fetchDocumentLevel (indicator .documentStart 3)
    else if (← atDocumentMarker) && c == '.' then
      fetchDocumentLevel (indicator .documentEnd 3)
    else if c == '[' then fetchFlowStart .flowSequenceStart
    else if c == '{' then fetchFlowStart .flowMappingStart
    else if c == ']' then fetchFlowEnd .flowSequenceEnd
    else if c == '}' then fetchFlowEnd .flowMappingEnd
    else if c == ',' then fetchFlowEntry
    else if c == '-' && blankOrEnd c1 then fetchBlockEntry
    else if c == '?' && (flow || blankOrEnd c1) then fetchKey
    else if c == ':' && (flow || blankOrEnd c1) then fetchValue
    else if c == '*' || c == '&' then
      saveCandidate
      forbidKey
      push (← scanAnchor (c == '*'))
    else if c == '!' then
      saveCandidate
      forbidKey
      push (← scanTag)
    else if (c == '|' || c == '>') && !flow then
      dropCandidate
      allowKey
      push (← scanBlock (c == '|'))
    else if c == '\'' || c == '"' then
      saveCandidate
      forbidKey
      push (← scanQuoted (c == '\''))
    else if !(blankOrEnd (some c) || "-?:,[]\x7b\x7d#&*!|>'\"%@\x60".toList.contains c) ||
        (c == '-' && !c1.any isSpaceOrTab) ||
        (!flow && (c == '?' || c == ':') && !blankOrEnd c1) then
      saveCandidate
      forbidKey
      push (← scanPlain)
    else
      fail (some "while scanning for the next token") s.mark "found character that cannot start any token"

/-- Whether the queue must grow before its head can be handed out: it is empty, or a key
candidate may still claim the head. -/
def needsMore : Scan Bool := do
  if (← get).queue.isEmpty then return true
  staleCandidates
  let s ← get
  return s.candidates.any fun k => k.possible && k.tokenNumber == s.taken

/-- Scans until the head of the queue is settled. -/
def fetchMore : Scan Unit := do
  for _ in [0:2 * (← room) + 8] do
    if ← needsMore then fetchNext else break
  modify fun s => { s with ready := true }

/-- The next token, scanning as far as needed to settle it. -/
def peek : Scan Token := do
  if !(← get).ready then fetchMore
  match (← get).queue with
  | t :: _ => return t
  | [] =>
    let m := (← get).mark
    return { kind := .streamEnd, start := m, stop := m }

/-- Hands out the head token. -/
def advance : Scan Unit :=
  modify fun s => { s with queue := s.queue.drop 1, taken := s.taken + 1, ready := false }

end Scanner

end TenderClient.Yaml
