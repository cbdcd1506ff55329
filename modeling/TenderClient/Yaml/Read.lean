import TenderClient.Yaml.Document
import TenderClient.Yaml.Scalar
import TenderClient.Decode.Problem

/-!
# Reading values from a YAML document

Readers walk the items of the first document. Each reader takes one node: a string takes
any scalar; a word takes a scalar that means an unsigned 64-bit integer; an optional value
is absent for null in a plain scalar; a record takes a mapping, field by field, and an empty
plain scalar or an empty stream counts as a mapping with no fields. An alias is read as the
node its anchor was set on.

A problem is placed at the node it arose in: the node's mark, and its path from the root
(`endpoints.seen`, `list[2]`). A problem raised after a node was read, such as a refused
identifier, is placed at the enclosing record. The message leaves out a root path and a
mark at the start of the text.
-/

set_option autoImplicit false

namespace TenderClient.Yaml

open Decode

/-- Where a node sits in a document: the keys and indices that lead to it. -/
inductive Path where
  | root
  | index (parent : Path) (i : Nat)
  | key (parent : Path) (name : String)
  /-- A node reached through an alias. -/
  | viaAlias (parent : Path)
  /-- A value whose key is not a scalar. -/
  | unknown (parent : Path)

/-- A path as it is reported: `.` for the root, keys joined by dots, indices in brackets. -/
def Path.render : Path → String
  | .root => "."
  | .index p i => p.render ++ "[" ++ Nat.repr i ++ "]"
  | .key p name => (match p with | .root => "" | _ => p.render ++ ".") ++ name
  | .viaAlias p => p.render
  | .unknown p => (match p with | .root => "" | _ => p.render ++ ".") ++ "?"

/-- Why a value could not be read from YAML. -/
inductive LoadError where
  | malformed (e : SyntaxError)
  /-- A decoding problem, placed at the node it arose in once that is known. -/
  | problem (p : Problem) (place : Option (Mark × Path))
  | endOfStream
  | moreThanOneDocument
  | unknownAnchor (mark : Mark)
  | recursionLimit (mark : Mark)
  | repetitionLimit

/-- The words " at line L column C", unless the mark is at the start. -/
def Mark.suffix (m : Mark) : String := if m.atStart then "" else " at " ++ m.render

/-- The sentence that reports a loading error. -/
def LoadError.message : LoadError → String
  | .malformed e => e.message
  | .problem p none => p.text Wording.yaml
  | .problem p (some (m, path)) =>
    let shown := path.render
    (if shown == "." then "" else shown ++ ": ") ++ p.text Wording.yaml ++ m.suffix
  | .endOfStream => "EOF while parsing a value"
  | .moreThanOneDocument =>
    "deserializing from YAML containing more than one document is not supported"
  | .unknownAnchor m => "unknown anchor" ++ m.suffix
  | .recursionLimit m => "recursion limit exceeded" ++ m.suffix
  | .repetitionLimit => "repetition limit exceeded"

/-- How a document is walked: the next item, how many aliases were followed, and how many
more collections may be entered. -/
structure Cursor where
  pos : Nat := 0
  jumps : Nat := 0
  depth : Nat := 128

/-- A reader of values from a document. -/
abbrev Read := ReaderT Document (StateT Cursor (Except LoadError))

/-- What a resolved scalar is called when it is not what was expected. -/
def Resolved.found : Resolved → Found
  | .null => .unit
  | .bool b => .bool b
  | .unsigned n => .unsigned n
  | .signed v => .signed v
  | .wideUnsigned n => .other ("integer `" ++ Nat.repr n ++ "` as u128")
  | .wideSigned v => .other ("integer `" ++ toString v ++ "` as i128")
  | .float f => .float f
  | .text s => .str s
  | .refused s _ => .str s

namespace Read

/-- The error behind a missing item: what stopped the reading of the document. -/
def missing (d : Document) : LoadError :=
  match d.failure with
  | some (.malformed e) => .malformed e
  | some (.unknownAnchor m) => .unknownAnchor m
  | none => .endOfStream

/-- The next item, left in place. -/
def peek : Read (Item × Mark) := do
  let d ← read
  match d.items[(← get).pos]? with
  | some im => return im
  | none => throw (missing d)

/-- Takes the next item. -/
def next : Read (Item × Mark) := do
  let im ← peek
  modify fun c => { c with pos := c.pos + 1 }
  return im

/-- Places a problem that is not placed yet at a node. -/
def placed {α : Type} (mark : Mark) (path : Path) (x : Read α) : Read α :=
  tryCatch x fun e => match e with
    | .problem p none => throw (.problem p (some (mark, path)))
    | e => throw e

/-- Runs a reader at the item an anchor was set on, and comes back. Following more aliases
than a hundred per item of the document is refused. -/
def jumpTo {α : Type} (anchor : Nat) (x : Read α) : Read α := do
  let d ← read
  modify fun c => { c with jumps := c.jumps + 1 }
  if (← get).jumps > d.items.size * 100 then throw .repetitionLimit
  match d.target? anchor with
  | none => throw .endOfStream
  | some target =>
    let saved := (← get).pos
    modify fun c => { c with pos := target }
    let r ← x
    modify fun c => { c with pos := saved }
    return r

/-- Takes a node and hands its first item, mark and path to `k`, following an alias. -/
def node {α : Type} (path : Path) (k : Item → Mark → Path → Read α) : Read α := do
  let (item, mark) ← next
  match item with
  | .alias anchor =>
    jumpTo anchor do
      let (item, mark) ← next
      k item mark (.viaAlias path)
  | _ => k item mark path

/-- Enters a collection starting at a mark, if the nesting allows one more. -/
def nested {α : Type} (mark : Mark) (x : Read α) : Read α := do
  let depth := (← get).depth
  if depth = 0 then throw (.recursionLimit mark)
  modify fun c => { c with depth := depth - 1 }
  let r ← x
  modify fun c => { c with depth := depth }
  return r

/-- The problem of finding a scalar of this meaning where `expected` was wanted; a tagged
scalar that does not fit its tag is refused on its own. -/
def mismatch (r : Resolved) (expected : String) : LoadError :=
  match r with
  | .refused s wanted => .problem (.invalidValue (.str s) wanted) none
  | r => .problem (.invalidType r.found expected) none

/-- The problem of finding an item where `expected` was wanted. -/
def unexpected (item : Item) (expected : String) : LoadError :=
  match item with
  | .scalar tag text style => mismatch (Scalar.resolve tag text style) expected
  | .sequenceStart _ => .problem (.invalidType .seq expected) none
  | .mappingStart _ => .problem (.invalidType .map expected) none
  | _ => .endOfStream

/-- Steps over one node, whatever it holds. -/
def skipNode : Read Unit := do
  let d ← read
  let mut open_ := 0
  for _ in [0:d.items.size + 1] do
    let (item, _) ← next
    match item with
    | .sequenceStart _ | .mappingStart _ => open_ := open_ + 1
    | .sequenceEnd | .mappingEnd => open_ := open_ - 1
    | _ => pure ()
    if open_ == 0 then break

/-- Any scalar, as text. -/
def string (path : Path) : Read String :=
  node path fun item mark path => placed mark path do
    match item with
    | .scalar _ text _ => return text
    | item => throw (unexpected item "a string")

/-- An unsigned 64-bit integer. -/
def word (path : Path) : Read Nat :=
  node path fun item mark path => placed mark path do
    match item with
    | .scalar tag text style =>
      match Scalar.resolve tag text style with
      | .unsigned n => return n
      | r => throw (mismatch r "u64")
    | item => throw (unexpected item "u64")

/-- Whether a node holds a value rather than null: a quoted scalar, a collection, or a
plain scalar that is not empty and no spelling of null. A scalar tagged null must be one. -/
def present (item : Item) : Read Bool :=
  match item with
  | .scalar tag text style =>
    if style != .plain then return true
    else match tag with
      | some t =>
        if t == Scalar.nullTag then
          if Scalar.isNullWord text then return false
          else throw (.problem (.invalidValue (.str text) "null") none)
        else return true
      | none => return !text.isEmpty && !Scalar.isNullWord text
  | .void => return false
  | _ => return true

/-- An optional value: absent for null, else read by `inner`. -/
def optional {α : Type} (path : Path) (inner : Path → Read α) : Read (Option α) := do
  let (item, _) ← peek
  match item with
  | .alias anchor =>
    let _ ← next
    jumpTo anchor do
      let (item, _) ← peek
      if ← present item then return some (← inner (.viaAlias path))
      let _ ← next
      return none
  | _ =>
    if ← present item then return some (← inner path)
    let _ ← next
    return none

/-- Reads a whole node as a value of any kind, and gives the identifier shape it has, if
any: an unsigned or signed 64-bit integer, or a text. Numbers wider than 64 bits are refused,
and so is a node with a local tag, which names a variant. -/
def idShapeAt : Nat → Path → Read (Option IdForm)
  | 0, _ => throw .endOfStream
  | fuel + 1, path =>
    node path fun item mark path => placed mark path do
      let localTag := match item with
        | .scalar tag _ _ | .sequenceStart tag | .mappingStart tag =>
          tag.any fun (t : String) => t.startsWith "!"
        | _ => false
      if localTag then throw (.problem .variantForIdShape none)
      match item with
      | .scalar tag text style =>
        match Scalar.resolve tag text style with
        | .unsigned n => return some (.unsigned n)
        | .signed v => return some (.signed v)
        | .text s => return some (.text s)
        | .null | .bool _ | .float _ => return none
        | r => throw (mismatch r "any value")
      | .sequenceStart _ =>
        nested mark do
          let d ← read
          let mut index := 0
          for _ in [0:d.items.size + 1] do
            let (next, _) ← peek
            match next with
            | .sequenceEnd | .void => break
            | _ =>
              let _ ← idShapeAt fuel (.index path index)
              index := index + 1
          let _ ← Read.next
          return none
      | .mappingStart _ =>
        nested mark do
          let d ← read
          for _ in [0:d.items.size + 1] do
            let (next, _) ← peek
            match next with
            | .mappingEnd | .void => break
            | .scalar _ key _ =>
              let _ ← idShapeAt fuel path
              let _ ← idShapeAt fuel (.key path key)
            | _ =>
              let _ ← idShapeAt fuel path
              let _ ← idShapeAt fuel (.unknown path)
          let _ ← Read.next
          return none
      | _ => return none

/-- The identifier shape of a node. -/
def idShape (path : Path) : Read (Option IdForm) := do
  idShapeAt ((← read).items.size + 1) path

/-- Whether an item is an empty plain scalar without a tag, which counts as an empty mapping. -/
def emptyMapping : Item → Bool
  | .scalar none text .plain => text.isEmpty
  | .void => true
  | _ => false

/-- A record from a mapping: `field` reads the value of each key into the state, and
`finish` makes the record once all keys are read. A key that is not a scalar is read as a
string through aliases, and its value has an unknown path. -/
def record {σ α : Type} (path : Path) (expected : String) (init : σ)
    (field : σ → String → Path → Read σ) (finish : σ → Except Problem α) : Read α :=
  node path fun item mark path => placed mark path do
    let done (st : σ) : Read α := match finish st with
      | .ok a => return a
      | .error p => throw (.problem p none)
    match item with
    | .mappingStart _ =>
      nested mark do
        let d ← read
        let mut st := init
        for _ in [0:d.items.size + 1] do
          let (next, _) ← peek
          match next with
          | .mappingEnd | .void => break
          | .scalar _ key _ =>
            let _ ← Read.next
            st ← field st key (.key path key)
          | _ =>
            let key ← node path fun item mark keyPath => placed mark keyPath do
              match item with
              | .scalar _ text _ => return text
              | item => throw (unexpected item "field identifier")
            st ← field st key (.unknown path)
        let a ← done st
        let _ ← Read.next
        return a
    | item =>
      if emptyMapping item then done init
      else throw (unexpected item expected)

/-- Reads a value from the first document of a stream. A syntax error met after the value is
complete is still reported, and so is a second document. -/
def runOn {α : Type} (stream : Stream) (x : Read α) : Except LoadError α :=
  match StateT.run (ReaderT.run x stream.first) {} with
  | .error e => .error e
  | .ok (a, _) =>
    match stream.first.failure with
    | some _ => .error (missing stream.first)
    | none => if stream.more then .error .moreThanOneDocument else .ok a

/-- Reads a value from the first document of a text. -/
def run {α : Type} (text : String) (x : Read α) : Except LoadError α :=
  runOn (Stream.read text) x

end Read

end TenderClient.Yaml
