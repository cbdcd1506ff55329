import TenderClient.Proofs.Yaml.ReadSteps
import TenderClient.Proofs.Yaml.WrittenScalar
/-!
# Reading written nodes back

The items a parser reports for a written node (`Node.items`): a scalar with its text and the
style it was written in, and a mapping as its start, each key followed by its value, and
its end; the writer puts no tag and no anchor. `ItemsAt d p l` says that the items `l`
stand in the document `d` from position `p` on.

`ReadsNode x node v room` says that the reader `x` reads the value `v` off the items of
`node` wherever they stand, with `room` levels of nesting left, and moves past them. A text
reads back as itself through a string, and a number below `2^64` through a word; either is
present where a value may be absent. A record reads back from a mapping whose entries its fields read one after
another (`EntriesRead`), one level deeper (`record_reads`).
-/

set_option autoImplicit false

namespace TenderClient.Yaml

mutual

/-- The items a parser reports for a written node, as the value of an entry: a scalar with
the text and the style it was written in, or a mapping's start, its entries and its end. -/
def Node.items : Node → List Item
  | .scalar text style => [.scalar none text (Write.chooseStyle style text false).toScalarStyle]
  | .mapping entries => .mappingStart none :: (Node.entryItems entries ++ [.mappingEnd])

/-- The items of the entries of a written mapping: each key, then its value. -/
def Node.entryItems : List (String × Node) → List Item
  | [] => []
  | (key, value) :: rest =>
    .scalar none key (Write.chooseStyle (Write.requestFor key) key true).toScalarStyle ::
      (value.items ++ Node.entryItems rest)

end

/-! ## Items in a document -/

/-- The items `l` stand in the document `d` from position `p` on, each with some mark. -/
def ItemsAt (d : Document) (p : Nat) (l : List Item) : Prop :=
  ∀ i (h : i < l.length), ∃ m, d.items[p + i]? = some (l[i], m)

section

variable {d : Document}

theorem itemsAt_cons {p : Nat} {x : Item} {l : List Item} :
    ItemsAt d p (x :: l) ↔ (∃ m, d.items[p]? = some (x, m)) ∧ ItemsAt d (p + 1) l := by
  constructor
  · intro h
    refine ⟨h 0 (Nat.succ_pos _), fun i hi => ?_⟩
    obtain ⟨m, hm⟩ := h (i + 1) (by simp; omega)
    exact ⟨m, by rwa [show p + 1 + i = p + (i + 1) by omega]⟩
  · rintro ⟨h0, hl⟩ i hi
    cases i with
    | zero => simpa using h0
    | succ i =>
      obtain ⟨m, hm⟩ := hl i (by simpa using hi)
      exact ⟨m, by rwa [show p + (i + 1) = p + 1 + i by omega]⟩

theorem itemsAt_append {p : Nat} {l₁ l₂ : List Item} :
    ItemsAt d p (l₁ ++ l₂) ↔ ItemsAt d p l₁ ∧ ItemsAt d (p + l₁.length) l₂ := by
  induction l₁ generalizing p with
  | nil => simp [ItemsAt]
  | cons x l ih =>
    rw [List.cons_append, itemsAt_cons, itemsAt_cons, ih, List.length_cons,
      show p + 1 + l.length = p + (l.length + 1) by omega, and_assoc]

/-- The items of a document, marks left out, stand in it from its start. -/
theorem itemsAt_of_toList {l : List Item} (h : d.items.toList.map Prod.fst = l) :
    ItemsAt d 0 l := by
  subst h
  intro i hi
  have hsize : i < d.items.size := by simpa using hi
  refine ⟨d.items[i].2, ?_⟩
  rw [Nat.zero_add, getElem?_pos d.items i hsize]
  simp

end

/-! ## Reading a node -/

/-- `x` reads `v` off the items of `node` wherever they stand, given `room` levels of nesting,
and moves past them. -/
def ReadsNode {α : Type} (x : Read α) (node : Node) (v : α) (room : Nat) : Prop :=
  ∀ (d : Document) (c : Cursor), ItemsAt d c.pos node.items → room ≤ c.depth →
    Read.Steps x d c v { c with pos := c.pos + node.items.length }

theorem ReadsNode.mono {α : Type} {x : Read α} {node : Node} {v : α} {room room' : Nat}
    (h : ReadsNode x node v room) (hle : room ≤ room') : ReadsNode x node v room' :=
  fun d c hat hroom => h d c hat (by omega)

/-- Any scalar reads back as its text. -/
theorem string_reads (path : Path) (s : String) (r : Requested) :
    ReadsNode (Read.string path) (.scalar s r) s 0 := by
  intro d c hat _
  obtain ⟨⟨m, hm⟩, -⟩ := itemsAt_cons.mp hat
  exact Read.string_steps hm

/-- A number below `2^64` reads back as itself: it is written plain, and its digits resolve
to it. -/
theorem word_reads (path : Path) {n : Nat} (hn : n < 2 ^ 64) :
    ReadsNode (Read.word path) (Node.number n) n 0 := by
  intro d c hat _
  obtain ⟨⟨m, hm⟩, -⟩ := itemsAt_cons.mp hat
  refine Read.word_steps hm ?_
  simp [Scalar.resolve, Write.chooseStyle_number, Written.toScalarStyle, Scalar.untagged_repr hn]

/-- A text where a value may be absent reads back as present, and as what `inner` reads. -/
theorem optional_text_reads {α : Type} (path : Path) {inner : Path → Read α} {s : String} {v : α}
    (hinner : ReadsNode (inner path) (Node.text s) v 0) :
    ReadsNode (Read.optional path inner) (Node.text s) (some v) 0 := by
  intro d c hat hroom
  obtain ⟨⟨m, hm⟩, -⟩ := itemsAt_cons.mp hat
  have hpresent := Read.present_steps (d := d) c s
    (Write.chooseStyle (Write.requestFor s) s false).toScalarStyle
  rw [text_present s] at hpresent
  exact Read.optional_steps hm (fun _ => nofun) hpresent (hinner d c hat hroom)

/-- A number where a value may be absent reads back as present, and as what `inner` reads. -/
theorem optional_number_reads {α : Type} (path : Path) {inner : Path → Read α} {n : Nat} {v : α}
    (hinner : ReadsNode (inner path) (Node.number n) v 0) :
    ReadsNode (Read.optional path inner) (Node.number n) (some v) 0 := by
  intro d c hat hroom
  obtain ⟨⟨m, hm⟩, -⟩ := itemsAt_cons.mp hat
  have hpresent := Read.present_steps (d := d) c (Nat.repr n)
    (Write.chooseStyle .plain (Nat.repr n) false).toScalarStyle
  rw [number_present n] at hpresent
  exact Read.optional_steps hm (fun _ => nofun) hpresent (hinner d c hat hroom)

/-! ## Reading a mapping -/

/-- The entries `es` of a written mapping are read by `field` one after another, from the
state `st` to `st'`, each value with `room` levels of nesting. -/
inductive EntriesRead {σ : Type} (field : σ → String → Path → Read σ) (path : Path) (room : Nat) :
    List (String × Node) → σ → σ → Prop where
  | nil (st : σ) : EntriesRead field path room [] st st
  | cons {key : String} {value : Node} {es : List (String × Node)} {st st₁ st₂ : σ}
      (hvalue : ReadsNode (field st key (path.key key)) value st₁ room)
      (rest : EntriesRead field path room es st₁ st₂) :
      EntriesRead field path room ((key, value) :: es) st st₂

section

variable {σ : Type} {field : σ → String → Path → Read σ} {path : Path} {room : Nat}

theorem EntriesRead.append {es₁ es₂ : List (String × Node)} {st st₁ st₂ : σ}
    (h₁ : EntriesRead field path room es₁ st st₁) (h₂ : EntriesRead field path room es₂ st₁ st₂) :
    EntriesRead field path room (es₁ ++ es₂) st st₂ := by
  induction h₁ with
  | nil => exact h₂
  | cons hvalue _ ih => exact .cons hvalue (ih h₂)

/-- Entries read one after another are the members of the mapping they stand in. -/
theorem EntriesRead.members {es : List (String × Node)} {st st' : σ}
    (h : EntriesRead field path room es st st') {d : Document} {c : Cursor}
    (hat : ItemsAt d c.pos (Node.entryItems es)) (hroom : room ≤ c.depth) :
    Read.Members d field path es.length st c st'
      { c with pos := c.pos + (Node.entryItems es).length } := by
  induction h generalizing c with
  | nil st => exact .nil st c
  | @cons key value es st st₁ st₂ hvalue _ ih =>
    rw [Node.entryItems, itemsAt_cons, itemsAt_append] at hat
    obtain ⟨⟨m, hkey⟩, hvat, hrest⟩ := hat
    have hv := hvalue d { c with pos := c.pos + 1 } hvat hroom
    have hpos : c.pos + 1 + value.items.length + (Node.entryItems es).length =
        c.pos + (Node.entryItems ((key, value) :: es)).length := by
      simp only [Node.entryItems, List.length_cons, List.length_append]
      omega
    rw [← hpos]
    exact .cons hkey hv (by dsimp only; omega) (ih hrest hroom)

end

/-- A record reads back from a written mapping whose entries its fields read, one level of
nesting deeper, when its state then makes the record. -/
theorem record_reads {σ α : Type} {field : σ → String → Path → Read σ} {path : Path}
    {room : Nat} {es : List (String × Node)} {expected : String} {init st : σ}
    {finish : σ → Except Decode.Problem α} {a : α}
    (hes : EntriesRead field path room es init st) (hfinish : finish st = .ok a) :
    ReadsNode (Read.record path expected init field finish) (.mapping es) a (room + 1) := by
  intro d c hat hroom
  rw [Node.items, itemsAt_cons, itemsAt_append, itemsAt_cons] at hat
  obtain ⟨⟨m, hstart⟩, hentries, ⟨m', hclose⟩, -⟩ := hat
  have hms := hes.members (c := { c with pos := c.pos + 1, depth := c.depth - 1 }) hentries
    (by simp only; omega)
  have hpos : c.pos + 1 + (Node.entryItems es).length + 1 =
      c.pos + (Node.mapping es).items.length := by
    simp only [Node.items, List.length_cons, List.length_append, List.length_nil]
    omega
  rw [← hpos]
  exact Read.record_steps hstart (by omega) hms hclose hfinish

/-! ## Reading a written document -/

/-- `read` parses the document written for the entries `es` back into the items they were
written as: a first document holding exactly those items, with no error, and nothing after
it. -/
def ReadsBack (read : String → Stream) (es : List (String × Node)) : Prop :=
  (read (Node.document es)).first.items.toList.map Prod.fst = (Node.mapping es).items ∧
    (read (Node.document es)).first.failure = none ∧ (read (Node.document es)).more = false

/-- A reader that reads a written mapping back, with no more nesting than a run allows,
reads back the document written for it, once the document is parsed back into its items. -/
theorem runOn_of_readsBack {α : Type} {x : Read α} {es : List (String × Node)} {a : α}
    {room : Nat} (hx : ReadsNode x (.mapping es) a room) (hroom : room ≤ 128)
    {read : String → Stream} (hback : ReadsBack read es) :
    Read.runOn (read (Node.document es)) x = .ok a := by
  obtain ⟨hitems, hfailure, hmore⟩ := hback
  exact Read.runOn_of_steps (hx _ {} (itemsAt_of_toList hitems) hroom) hfailure hmore

end TenderClient.Yaml
