import TenderClient.Yaml.Event

/-!
# The first document of a YAML stream

Values are read from the first document only. Its node events are collected in order, each
with the mark where it starts; an anchor gets a number and an alias points at the event its
anchor was set on. Reading stops at the end of the document or at the first error, which is
kept: a value that needs no event past it still decodes, and the error is reported after.

An empty stream has one document holding a single `void` item.
-/

set_option autoImplicit false

namespace TenderClient.Yaml

/-- A node event of a document, as values are read from it. -/
inductive Item where
  | scalar (tag : Option String) (text : String) (style : ScalarStyle)
  /-- An alias, by the number of its anchor. -/
  | alias (anchor : Nat)
  | sequenceStart (tag : Option String)
  | sequenceEnd
  | mappingStart (tag : Option String)
  | mappingEnd
  /-- The only item of a stream with no document. -/
  | void
deriving DecidableEq, Repr

/-- Why reading a document stopped early. -/
inductive DocumentError where
  | malformed (e : SyntaxError)
  /-- An alias to an anchor not set before it. -/
  | unknownAnchor (mark : Mark)
deriving DecidableEq, Repr

/-- The items of a document, with what stopped reading it. -/
structure Document where
  items : Array (Item × Mark) := #[]
  /-- For each anchor number, the index of the item it was set on. -/
  anchored : List (Nat × Nat) := []
  failure : Option DocumentError := none

/-- The first document of a stream, and whether another document follows it. -/
structure Stream where
  first : Document
  more : Bool

namespace Document

/-- The item an anchor number points at. -/
def target? (d : Document) (anchor : Nat) : Option Nat := d.anchored.lookup anchor

/-- Sets an anchor on the next item: the anchor's number is the count of distinct names set
so far (a name set again takes a new number), and it points at the next index. -/
def setAnchor (d : Document) (names : List (String × Nat)) : Option String →
    Document × List (String × Nat)
  | none => (d, names)
  | some name =>
    let id := names.length
    let names := names.filter (·.1 != name) ++ [(name, id)]
    let anchored := d.anchored.filter (·.1 != id) ++ [(id, d.items.size)]
    ({ d with anchored }, names)

/-- Adds an item at a mark. -/
def add (d : Document) (item : Item) (mark : Mark) : Document :=
  { d with items := d.items.push (item, mark) }

/-- Collects the items of the document the parser stands in, until its end, the end of the
stream or an error. Gives the parser after the document's end, if reading can go on. -/
def collect : Nat → Parser → Document → List (String × Nat) → Document × Option Parser
  | 0, _, d, _ => (d, none)
  | fuel + 1, p, d, names =>
    match Parser.next.run p with
    | .error e => ({ d with failure := some (.malformed e) }, none)
    | .ok (ev, p) =>
      match ev.kind with
      | .streamStart | .documentStart _ => collect fuel p d names
      | .streamEnd =>
        (if d.items.isEmpty then d.add .void ev.start else d, none)
      | .documentEnd _ => (d, some p)
      | .alias name =>
        match names.lookup name with
        | some id => collect fuel p (d.add (.alias id) ev.start) names
        | none => ({ d with failure := some (.unknownAnchor ev.start) }, none)
      | .scalar anchor tag text style _ _ =>
        let (d, names) := d.setAnchor names anchor
        collect fuel p (d.add (.scalar tag text style) ev.start) names
      | .sequenceStart anchor tag _ _ =>
        let (d, names) := d.setAnchor names anchor
        collect fuel p (d.add (.sequenceStart tag) ev.start) names
      | .sequenceEnd => collect fuel p (d.add .sequenceEnd ev.start) names
      | .mappingStart anchor tag _ _ =>
        let (d, names) := d.setAnchor names anchor
        collect fuel p (d.add (.mappingStart tag) ev.start) names
      | .mappingEnd => collect fuel p (d.add .mappingEnd ev.start) names

end Document

/-- Reads the first document of a text, and looks whether a second one begins after it: an
error there counts as one. -/
def Stream.read (text : String) : Stream :=
  let fuel := 8 * text.length + 64
  match Document.collect fuel (Parser.ofString text) {} [] with
  | (first, none) => { first, more := false }
  | (first, some p) =>
    let more := match Parser.next.run p with
      | .ok (ev, _) => ev.kind != .streamEnd
      | .error _ => true
    { first, more }

end TenderClient.Yaml
