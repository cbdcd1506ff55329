import TenderClient.Yaml.Token

/-!
# YAML events

The parser reads tokens and gives the events of a YAML stream: the start and end of the
stream and of each document, scalars, aliases, and the start and end of each sequence and
mapping. It is a machine over a stack of phases; each call gives one event. A missing node
(a key without a value, an entry left empty) is an empty plain scalar.

Node tags are resolved here against the document's tag directives and the two standard
handles, "!" and "!!".
-/

set_option autoImplicit false

namespace TenderClient.Yaml

/-- What an event is, with what it carries. -/
inductive EventKind where
  | streamStart
  | streamEnd
  | documentStart (implicit : Bool)
  | documentEnd (implicit : Bool)
  | alias (name : String)
  | scalar (anchor tag : Option String) (text : String) (style : ScalarStyle)
      (plainImplicit quotedImplicit : Bool)
  | sequenceStart (anchor tag : Option String) (implicit flow : Bool)
  | sequenceEnd
  | mappingStart (anchor tag : Option String) (implicit flow : Bool)
  | mappingEnd
deriving Repr, DecidableEq

/-- An event and the marks where it starts and ends. -/
structure Event where
  kind : EventKind
  start : Mark
  stop : Mark
deriving Repr

/-- Where the parser stands: what it expects next. -/
inductive Phase where
  | streamStart
  | implicitDocumentStart
  | documentStart
  | documentContent
  | documentEnd
  | blockNode
  | blockSequenceFirstEntry
  | blockSequenceEntry
  | indentlessSequenceEntry
  | blockMappingFirstKey
  | blockMappingKey
  | blockMappingValue
  | flowSequenceFirstEntry
  | flowSequenceEntry
  | flowSequenceEntryMappingKey
  | flowSequenceEntryMappingValue
  | flowSequenceEntryMappingEnd
  | flowMappingFirstKey
  | flowMappingKey
  | flowMappingValue
  | flowMappingEmptyValue
  | finished
deriving Repr, DecidableEq

/-- The parser's state: the scanner, the phase, the phases to return to, the marks where
open collections began, and the tag directives of the current document. -/
structure Parser where
  scanner : Scanner
  phase : Phase := .streamStart
  phases : List Phase := []
  marks : List Mark := []
  tagDirectives : List (String × String) := []

/-- A step of the parser, which may stop with a syntax error. -/
abbrev Parse := StateT Parser (Except SyntaxError)

/-- The standard tag handles. -/
def defaultTagDirectives : List (String × String) :=
  [("!", "!"), ("!!", "tag:yaml.org,2002:")]

namespace Parser

/-- A parser at the start of a text. -/
def ofString (text : String) : Parser := { scanner := Scanner.ofString text }

/-- Runs a scanner step on the parser's scanner. -/
def scan {α : Type} (x : Scan α) : Parse α := do
  let p ← get
  match x.run p.scanner with
  | .ok (a, sc) =>
    set { p with scanner := sc }
    return a
  | .error e => throw e

/-- The next token. -/
def token : Parse Token := scan Scanner.peek

/-- Takes the next token. -/
def skipToken : Parse Unit := scan Scanner.advance

/-- Fuel for the parser's loops. -/
def room : Parse Nat := scan Scanner.room

/-- Stops with a problem found at a mark. -/
def failAt {α : Type} (problem : String) (mark : Mark) : Parse α :=
  throw { problem, problemMark := mark }

/-- Stops with a problem found at a mark, while reading a construct that began elsewhere. -/
def failIn {α : Type} (context : String) (contextMark : Mark) (problem : String) (mark : Mark) :
    Parse α :=
  throw { problem, problemMark := mark, context := some context, contextMark }

/-- Moves to a phase. -/
def goTo (phase : Phase) : Parse Unit := modify fun p => { p with phase }

/-- Remembers a phase to return to. -/
def pushPhase (phase : Phase) : Parse Unit := modify fun p => { p with phases := phase :: p.phases }

/-- Returns to the last remembered phase. -/
def popPhase : Parse Unit :=
  modify fun p => match p.phases with
    | [] => { p with phase := .finished }
    | q :: rest => { p with phase := q, phases := rest }

/-- Remembers where a collection began. -/
def pushMark (m : Mark) : Parse Unit := modify fun p => { p with marks := m :: p.marks }

/-- Forgets and gives the mark where the innermost collection began. -/
def popMark : Parse Mark := do
  let p ← get
  match p.marks with
  | [] => return {}
  | m :: rest =>
    set { p with marks := rest }
    return m

/-- An empty plain scalar at a mark: a node that is not written. -/
def emptyScalar (m : Mark) : Event :=
  { kind := .scalar none none "" .plain true false, start := m, stop := m }

/-- Adds a tag directive; a handle given twice is an error unless defaults are being added. -/
def addTagDirective (handle tagPrefix : String) (allowDuplicate : Bool) (mark : Mark) :
    Parse Unit := do
  let p ← get
  if p.tagDirectives.any (·.1 == handle) then
    if !allowDuplicate then failAt "found duplicate %TAG directive" mark
  else
    set { p with tagDirectives := p.tagDirectives ++ [(handle, tagPrefix)] }

/-- Reads the directives before a document; only version 1.1 and 1.2 are accepted. -/
def directives : Parse Unit := do
  let mut seenVersion := false
  for _ in [0:(← room)] do
    let t ← token
    match t.kind with
    | .versionDirective major minor =>
      if seenVersion then failAt "found duplicate %YAML directive" t.start
      if major != 1 || (minor != 1 && minor != 2) then
        failAt "found incompatible YAML document" t.start
      seenVersion := true
      skipToken
    | .tagDirective handle tagPrefix =>
      addTagDirective handle tagPrefix false t.start
      skipToken
    | _ => break
  let t ← token
  for (handle, tagPrefix) in defaultTagDirectives do
    addTagDirective handle tagPrefix true t.start

/-- Whether a token begins a document explicitly. -/
def opensDocument : TokenKind → Bool
  | .versionDirective .. => true
  | .tagDirective .. => true
  | .documentStart => true
  | _ => false

/-- The start of the stream. -/
def streamStart : Parse Event := do
  let t ← token
  match t.kind with
  | .streamStart =>
    goTo .implicitDocumentStart
    skipToken
    return { kind := .streamStart, start := t.start, stop := t.start }
  | _ => failAt "did not find expected <stream-start>" t.start

/-- The start of a document, or the end of the stream. The first document may begin
without "---"; a later one must not. -/
def documentStart (implicit : Bool) : Parse Event := do
  let mut t ← token
  if !implicit then
    for _ in [0:(← room)] do
      if t.kind == .documentEnd then
        skipToken
        t ← token
      else break
  if t.kind == .streamEnd then
    goTo .finished
    skipToken
    return { kind := .streamEnd, start := t.start, stop := t.stop }
  if implicit && !opensDocument t.kind then
    directives
    pushPhase .documentEnd
    goTo .blockNode
    return { kind := .documentStart true, start := t.start, stop := t.start }
  let start := t.start
  directives
  let marker ← token
  if marker.kind != .documentStart then failAt "did not find expected <document start>" marker.start
  pushPhase .documentEnd
  goTo .documentContent
  skipToken
  return { kind := .documentStart false, start, stop := marker.stop }

/-- The end of a document, explicit with "..." or implied. -/
def documentEnd : Parse Event := do
  let t ← token
  let explicit := t.kind == .documentEnd
  if explicit then skipToken
  modify fun p => { p with tagDirectives := [], phase := .documentStart }
  return { kind := .documentEnd (!explicit), start := t.start, stop := if explicit then t.stop else t.start }

/-- A node: an alias, or a scalar or collection with an optional anchor and tag. -/
def node (block indentless : Bool) : Parse Event := do
  let first ← token
  if let .alias name := first.kind then
    popPhase
    skipToken
    return { kind := .alias name, start := first.start, stop := first.stop }
  let mut t := first
  let mut anchor : Option String := none
  let mut handle : Option (String × String) := none
  let start := first.start
  let mut stop := first.start
  let mut tagMark := first.start
  match first.kind with
  | .anchor name =>
    anchor := some name
    stop := first.stop
    skipToken
    t ← token
    if let .tag h s := t.kind then
      handle := some (h, s)
      tagMark := t.start
      stop := t.stop
      skipToken
      t ← token
  | .tag h s =>
    handle := some (h, s)
    stop := first.stop
    skipToken
    t ← token
    if let .anchor name := t.kind then
      anchor := some name
      stop := t.stop
      skipToken
      t ← token
  | _ => pure ()
  let mut tag : Option String := none
  if let some (h, s) := handle then
    if h.isEmpty then tag := some s
    else
      match (← get).tagDirectives.find? (·.1 == h) with
      | some (_, tagPrefix) => tag := some (tagPrefix ++ s)
      | none => failIn "while parsing a node" start "found undefined tag handle" tagMark
  let implicit := tag.all String.isEmpty
  if indentless && t.kind == .blockEntry then
    goTo .indentlessSequenceEntry
    return { kind := .sequenceStart anchor tag implicit false, start, stop := t.stop }
  match t.kind with
  | .scalar text style =>
    let plainImplicit := (style == .plain && tag.isNone) || tag == some "!"
    let quotedImplicit := !plainImplicit && tag.isNone
    popPhase
    skipToken
    return { kind := .scalar anchor tag text style plainImplicit quotedImplicit, start, stop := t.stop }
  | .flowSequenceStart =>
    goTo .flowSequenceFirstEntry
    return { kind := .sequenceStart anchor tag implicit true, start, stop := t.stop }
  | .flowMappingStart =>
    goTo .flowMappingFirstKey
    return { kind := .mappingStart anchor tag implicit true, start, stop := t.stop }
  | .blockSequenceStart =>
    if block then
      goTo .blockSequenceFirstEntry
      return { kind := .sequenceStart anchor tag implicit false, start, stop := t.stop }
    else lacking anchor tag implicit start stop t
  | .blockMappingStart =>
    if block then
      goTo .blockMappingFirstKey
      return { kind := .mappingStart anchor tag implicit false, start, stop := t.stop }
    else lacking anchor tag implicit start stop t
  | _ => lacking anchor tag implicit start stop t
where
  /-- A node with properties but no content is an empty scalar; without either, an error. -/
  lacking (anchor tag : Option String) (implicit : Bool) (start stop : Mark) (t : Token) :
      Parse Event := do
    if anchor.isSome || tag.isSome then
      popPhase
      return { kind := .scalar anchor tag "" .plain implicit false, start, stop }
    failIn (if block then "while parsing a block node" else "while parsing a flow node") start
      "did not find expected node content" t.start

/-- An entry of a block sequence, or its end. -/
def blockSequenceEntry (first : Bool) : Parse Event := do
  if first then
    pushMark (← token).start
    skipToken
  let t ← token
  match t.kind with
  | .blockEntry =>
    let mark := t.stop
    skipToken
    let t ← token
    match t.kind with
    | .blockEntry | .blockEnd =>
      goTo .blockSequenceEntry
      return emptyScalar mark
    | _ =>
      pushPhase .blockSequenceEntry
      node true false
  | .blockEnd =>
    popPhase
    let _ ← popMark
    skipToken
    return { kind := .sequenceEnd, start := t.start, stop := t.stop }
  | _ => failIn "while parsing a block collection" (← popMark) "did not find expected '-' indicator" t.start

/-- An entry of a sequence written at its mapping's own indentation, or its end. -/
def indentlessSequenceEntry : Parse Event := do
  let t ← token
  match t.kind with
  | .blockEntry =>
    let mark := t.stop
    skipToken
    let t ← token
    match t.kind with
    | .blockEntry | .key | .value | .blockEnd =>
      goTo .indentlessSequenceEntry
      return emptyScalar mark
    | _ =>
      pushPhase .indentlessSequenceEntry
      node true false
  | _ =>
    popPhase
    return { kind := .sequenceEnd, start := t.start, stop := t.start }

/-- A key of a block mapping, or its end. -/
def blockMappingKey (first : Bool) : Parse Event := do
  if first then
    pushMark (← token).start
    skipToken
  let t ← token
  match t.kind with
  | .key =>
    let mark := t.stop
    skipToken
    let t ← token
    match t.kind with
    | .key | .value | .blockEnd =>
      goTo .blockMappingValue
      return emptyScalar mark
    | _ =>
      pushPhase .blockMappingValue
      node true true
  | .blockEnd =>
    popPhase
    let _ ← popMark
    skipToken
    return { kind := .mappingEnd, start := t.start, stop := t.stop }
  | _ => failIn "while parsing a block mapping" (← popMark) "did not find expected key" t.start

/-- A value of a block mapping; a key without one has an empty value. -/
def blockMappingValue : Parse Event := do
  let t ← token
  match t.kind with
  | .value =>
    let mark := t.stop
    skipToken
    let t ← token
    match t.kind with
    | .key | .value | .blockEnd =>
      goTo .blockMappingKey
      return emptyScalar mark
    | _ =>
      pushPhase .blockMappingKey
      node true true
  | _ =>
    goTo .blockMappingKey
    return emptyScalar t.start

/-- An entry of a flow sequence, or its end; a "key: value" entry is a one-pair mapping. -/
def flowSequenceEntry (first : Bool) : Parse Event := do
  if first then
    pushMark (← token).start
    skipToken
  let mut t ← token
  if t.kind != .flowSequenceEnd then
    if !first then
      if t.kind == .flowEntry then
        skipToken
        t ← token
      else
        failIn "while parsing a flow sequence" (← popMark) "did not find expected ',' or ']'" t.start
    if t.kind == .key then
      goTo .flowSequenceEntryMappingKey
      skipToken
      return { kind := .mappingStart none none true true, start := t.start, stop := t.stop }
    if t.kind != .flowSequenceEnd then
      pushPhase .flowSequenceEntry
      return ← node false false
  popPhase
  let _ ← popMark
  skipToken
  return { kind := .sequenceEnd, start := t.start, stop := t.stop }

/-- The key of a one-pair mapping inside a flow sequence. -/
def flowSequenceEntryMappingKey : Parse Event := do
  let t ← token
  match t.kind with
  | .value | .flowEntry | .flowSequenceEnd =>
    let mark := t.stop
    skipToken
    goTo .flowSequenceEntryMappingValue
    return emptyScalar mark
  | _ =>
    pushPhase .flowSequenceEntryMappingValue
    node false false

/-- The value of a one-pair mapping inside a flow sequence. -/
def flowSequenceEntryMappingValue : Parse Event := do
  let mut t ← token
  if t.kind == .value then
    skipToken
    t ← token
    if t.kind != .flowEntry && t.kind != .flowSequenceEnd then
      pushPhase .flowSequenceEntryMappingEnd
      return ← node false false
  goTo .flowSequenceEntryMappingEnd
  return emptyScalar t.start

/-- The end of a one-pair mapping inside a flow sequence. -/
def flowSequenceEntryMappingEnd : Parse Event := do
  let t ← token
  goTo .flowSequenceEntry
  return { kind := .mappingEnd, start := t.start, stop := t.start }

/-- A key of a flow mapping, or its end. -/
def flowMappingKey (first : Bool) : Parse Event := do
  if first then
    pushMark (← token).start
    skipToken
  let mut t ← token
  if t.kind != .flowMappingEnd then
    if !first then
      if t.kind == .flowEntry then
        skipToken
        t ← token
      else
        failIn "while parsing a flow mapping" (← popMark) "did not find expected ',' or '\x7d'" t.start
    if t.kind == .key then
      skipToken
      let after ← token
      if after.kind != .value && after.kind != .flowEntry && after.kind != .flowMappingEnd then
        pushPhase .flowMappingValue
        return ← node false false
      goTo .flowMappingValue
      return emptyScalar after.start
    if t.kind != .flowMappingEnd then
      pushPhase .flowMappingEmptyValue
      return ← node false false
  popPhase
  let _ ← popMark
  skipToken
  return { kind := .mappingEnd, start := t.start, stop := t.stop }

/-- A value of a flow mapping; `empty` for an entry written without ":". -/
def flowMappingValue (empty : Bool) : Parse Event := do
  let mut t ← token
  if empty then
    goTo .flowMappingKey
    return emptyScalar t.start
  if t.kind == .value then
    skipToken
    t ← token
    if t.kind != .flowEntry && t.kind != .flowMappingEnd then
      pushPhase .flowMappingKey
      return ← node false false
  goTo .flowMappingKey
  return emptyScalar t.start

/-- The next event. -/
def next : Parse Event := do
  match (← get).phase with
  | .streamStart => streamStart
  | .implicitDocumentStart => documentStart true
  | .documentStart => documentStart false
  | .documentContent =>
    let t ← token
    if opensDocument t.kind || t.kind == .documentEnd || t.kind == .streamEnd then
      popPhase
      return emptyScalar t.start
    node true false
  | .documentEnd => documentEnd
  | .blockNode => node true false
  | .blockSequenceFirstEntry => blockSequenceEntry true
  | .blockSequenceEntry => blockSequenceEntry false
  | .indentlessSequenceEntry => indentlessSequenceEntry
  | .blockMappingFirstKey => blockMappingKey true
  | .blockMappingKey => blockMappingKey false
  | .blockMappingValue => blockMappingValue
  | .flowSequenceFirstEntry => flowSequenceEntry true
  | .flowSequenceEntry => flowSequenceEntry false
  | .flowSequenceEntryMappingKey => flowSequenceEntryMappingKey
  | .flowSequenceEntryMappingValue => flowSequenceEntryMappingValue
  | .flowSequenceEntryMappingEnd => flowSequenceEntryMappingEnd
  | .flowMappingFirstKey => flowMappingKey true
  | .flowMappingKey => flowMappingKey false
  | .flowMappingValue => flowMappingValue false
  | .flowMappingEmptyValue => flowMappingValue true
  | .finished =>
    let m := (← get).scanner.mark
    return { kind := .streamEnd, start := m, stop := m }

end Parser

end TenderClient.Yaml
