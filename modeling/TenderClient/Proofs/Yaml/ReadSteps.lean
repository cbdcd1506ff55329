import TenderClient.Yaml.Read
/-!
# Reading a YAML document, step by step

What a reader does to a document it succeeds on: `Steps x d c a c'` says that `x`, run on
the items of `d` from the cursor `c`, returns `a` and leaves the cursor `c'`. Readers are
composed by `Steps.bind`, so the reading of a whole value is the chain of the readings of
its pieces.

Each reader of `Read` gets one lemma here, stated for the item it meets: a string takes
any scalar, a word a scalar that resolves to an unsigned integer, an optional value a
present node, and an identifier shape an untagged scalar. A record is read member by
member (`Members`): each member is a scalar key and a value its field reads, and the
members end where the mapping does (`record_steps`). The loop over the members runs once
per item of the document at most, which is always enough, since each member moves past
its key. A run succeeds when its reader does on the first document and the stream holds
nothing else (`runOn_of_steps`).
-/

set_option autoImplicit false

namespace TenderClient.Yaml.Read

/-- On the document `d`, from the cursor `c`, `x` returns `a` and leaves the cursor `c'`. -/
def Steps {α : Type} (x : Read α) (d : Document) (c : Cursor) (a : α) (c' : Cursor) : Prop :=
  StateT.run (ReaderT.run x d) c = .ok (a, c')

section

variable {α β : Type} {d : Document}

/-! ## Composing steps -/

theorem Steps.pure (a : α) (c : Cursor) : Steps (Pure.pure a : Read α) d c a c := rfl

theorem Steps.read (c : Cursor) : Steps (MonadReader.read : Read Document) d c d c := rfl

theorem Steps.get (c : Cursor) : Steps (MonadState.get : Read Cursor) d c c c := rfl

theorem Steps.modify (f : Cursor → Cursor) (c : Cursor) :
    Steps (MonadState.modifyGet fun s => (PUnit.unit, f s) : Read PUnit) d c () (f c) := rfl

theorem Steps.bind {x : Read α} {f : α → Read β} {c c₁ c₂ : Cursor} {a : α} {b : β}
    (hx : Steps x d c a c₁) (hf : Steps (f a) d c₁ b c₂) : Steps (x >>= f) d c b c₂ := by
  unfold Steps at *
  simp only [ReaderT.run_bind, StateT.run_bind, hx]
  exact hf

/-! ## Items and nodes -/

theorem peek_steps {c : Cursor} {im : Item × Mark} (h : d.items[c.pos]? = some im) :
    Steps peek d c im c := by
  unfold peek
  refine (Steps.read c).bind ((Steps.get c).bind ?_)
  rw [h]
  rfl

theorem next_steps {c : Cursor} {im : Item × Mark} (h : d.items[c.pos]? = some im) :
    Steps next d c im { c with pos := c.pos + 1 } := by
  unfold next
  refine (peek_steps h).bind ?_
  rfl

/-- A reader that succeeds has no problem to place. -/
theorem placed_steps {x : Read α} {c c' : Cursor} {a : α} (mark : Mark) (path : Path)
    (h : Steps x d c a c') : Steps (placed mark path x) d c a c' := by
  unfold placed Steps at *
  show Except.tryCatch (StateT.run (ReaderT.run x d) c) _ = _
  rw [h]
  rfl

/-- A collection is read one level deeper, and the depth is given back after it. -/
theorem nested_steps {x : Read α} {c e : Cursor} {a : α} (mark : Mark) (hdepth : 0 < c.depth)
    (h : Steps x d { c with depth := c.depth - 1 } a e) :
    Steps (nested mark x) d c a { e with depth := c.depth } := by
  unfold nested
  refine (Steps.get c).bind ?_
  simp only [Nat.pos_iff_ne_zero.mp hdepth, if_false]
  exact (Steps.modify _ c).bind (h.bind ((Steps.modify _ e).bind (Steps.pure a _)))

/-- A node that is no alias is handed to its reader as it stands. -/
theorem node_steps {path : Path} {k : Item → Mark → Path → Read α} {c c' : Cursor} {a : α}
    {item : Item} {mark : Mark} (h : d.items[c.pos]? = some (item, mark))
    (hitem : ∀ n, item ≠ .alias n)
    (hk : Steps (k item mark path) d { c with pos := c.pos + 1 } a c') :
    Steps (node path k) d c a c' := by
  unfold node
  refine (next_steps h).bind ?_
  cases item with
  | «alias» n => exact absurd rfl (hitem n)
  | _ => exact hk

/-! ## Scalars -/

theorem string_steps {path : Path} {c : Cursor} {tag : Option String} {text : String}
    {style : ScalarStyle} {mark : Mark}
    (h : d.items[c.pos]? = some (.scalar tag text style, mark)) :
    Steps (string path) d c text { c with pos := c.pos + 1 } :=
  node_steps h (fun _ => nofun) (placed_steps mark path (Steps.pure text _))

theorem word_steps {path : Path} {c : Cursor} {tag : Option String} {text : String}
    {style : ScalarStyle} {mark : Mark} {n : Nat}
    (h : d.items[c.pos]? = some (.scalar tag text style, mark))
    (hr : Scalar.resolve tag text style = .unsigned n) :
    Steps (word path) d c n { c with pos := c.pos + 1 } := by
  refine node_steps h (fun _ => nofun) (placed_steps mark path ?_)
  dsimp only
  rw [hr]
  exact Steps.pure n _

/-- An untagged scalar is present unless it is plain and empty or a spelling of null. -/
theorem present_steps (c : Cursor) (text : String) (style : ScalarStyle) :
    Steps (present (.scalar none text style)) d c
      (style != .plain || (!text.isEmpty && !Scalar.isNullWord text)) c := by
  unfold present
  dsimp only
  cases style != .plain
  · rw [if_neg Bool.false_ne_true]
    exact Steps.pure _ c
  · rw [if_pos rfl]
    exact Steps.pure _ c

theorem optional_steps {path : Path} {inner : Path → Read α} {c c' : Cursor} {a : α}
    {item : Item} {mark : Mark} (h : d.items[c.pos]? = some (item, mark))
    (hitem : ∀ n, item ≠ .alias n) (hp : Steps (present item) d c true c)
    (hi : Steps (inner path) d c a c') : Steps (optional path inner) d c (some a) c' := by
  unfold optional
  refine (peek_steps h).bind ?_
  cases item with
  | «alias» n => exact absurd rfl (hitem n)
  | _ => exact hp.bind (hi.bind (Steps.pure _ _))

theorem idShape_steps {path : Path} {c : Cursor} {text : String} {style : ScalarStyle}
    {mark : Mark} {n : Nat} (h : d.items[c.pos]? = some (.scalar none text style, mark))
    (hr : Scalar.resolve none text style = .unsigned n) :
    Steps (idShape path) d c (some (.unsigned n)) { c with pos := c.pos + 1 } := by
  unfold idShape
  refine (Steps.read c).bind ?_
  rw [idShapeAt]
  refine node_steps h (fun _ => nofun) (placed_steps mark path ?_)
  -- an untagged scalar has no local tag
  dsimp only
  simp only [Option.any_none, Bool.false_eq_true, ↓reduceIte, hr]
  exact Steps.pure _ _

/-! ## Records -/

/-- The members of a mapping, read one after another by `field`: from the cursor `c` and the
state `st`, `n` times a scalar key is taken and `field` reads its value under the key's
path, until the state `st'` and the cursor `c'`. -/
inductive Members {σ : Type} (d : Document) (field : σ → String → Path → Read σ) (path : Path) :
    Nat → σ → Cursor → σ → Cursor → Prop where
  | nil (st : σ) (c : Cursor) : Members d field path 0 st c st c
  | cons {n : Nat} {st st₁ st₂ : σ} {c c₁ c₂ : Cursor} {tag : Option String} {key : String}
      {style : ScalarStyle} {mark : Mark}
      (hkey : d.items[c.pos]? = some (.scalar tag key style, mark))
      (hvalue : Steps (field st key (path.key key)) d { c with pos := c.pos + 1 } st₁ c₁)
      (hmove : c.pos < c₁.pos) (rest : Members d field path n st₁ c₁ st₂ c₂) :
      Members d field path (n + 1) st c st₂ c₂

/-- Each member moves the cursor on. -/
theorem Members.pos_le {σ : Type} {field : σ → String → Path → Read σ} {path : Path} {n : Nat}
    {st st' : σ} {c c' : Cursor} (h : Members d field path n st c st' c') :
    c.pos + n ≤ c'.pos := by
  induction h with
  | nil => omega
  | cons _ _ hmove _ ih => omega

/-- A loop over a range whose body reads a member at a key and stops at the end of the
mapping reads all the members, as long as the range is longer than their number. -/
theorem forIn_members {σ : Type} {field : σ → String → Path → Read σ} {path : Path}
    {body : Nat → σ → Read (ForInStep σ)}
    (hmember : ∀ i st c tag key style mark st₁ c₁,
      d.items[c.pos]? = some (.scalar tag key style, mark) →
      Steps (field st key (path.key key)) d { c with pos := c.pos + 1 } st₁ c₁ →
      Steps (body i st) d c (.yield st₁) c₁)
    (hend : ∀ i st c mark, d.items[c.pos]? = some (.mappingEnd, mark) →
      Steps (body i st) d c (.done st) c)
    {n : Nat} {st st' : σ} {c c' : Cursor} (hms : Members d field path n st c st' c')
    {mark' : Mark} (hclose : d.items[c'.pos]? = some (.mappingEnd, mark')) :
    ∀ k fuel, n < fuel → Steps (forIn (List.range' k fuel) st body) d c st' c' := by
  induction hms with
  | nil st c =>
    intro k fuel hfuel
    obtain ⟨f, rfl⟩ : ∃ f, fuel = f + 1 := ⟨fuel - 1, by omega⟩
    rw [List.range'_succ, List.forIn_cons]
    exact (hend k st c mark' hclose).bind (Steps.pure _ _)
  | cons hkey hvalue _ _ ih =>
    intro k fuel hfuel
    obtain ⟨f, rfl⟩ : ∃ f, fuel = f + 1 := ⟨fuel - 1, by omega⟩
    rw [List.range'_succ, List.forIn_cons]
    exact (hmember k _ _ _ _ _ _ _ _ hkey hvalue).bind (ih hclose (k + 1) f (by omega))

/-- A record read from a mapping: its members are read one level deeper, up to the end of
the mapping, whose state `finish` turns into the record. -/
theorem record_steps {σ : Type} {path : Path} {expected : String} {init st : σ}
    {field : σ → String → Path → Read σ} {finish : σ → Except Decode.Problem α} {a : α}
    {c c' : Cursor} {tag : Option String} {mark mark' : Mark} {n : Nat}
    (hstart : d.items[c.pos]? = some (.mappingStart tag, mark)) (hdepth : 0 < c.depth)
    (hms : Members d field path n init { c with pos := c.pos + 1, depth := c.depth - 1 } st c')
    (hclose : d.items[c'.pos]? = some (.mappingEnd, mark')) (hfinish : finish st = .ok a) :
    Steps (record path expected init field finish) d c a
      { c' with pos := c'.pos + 1, depth := c.depth } := by
  unfold record
  refine node_steps hstart (fun _ => nofun) (placed_steps mark path ?_)
  dsimp only
  refine nested_steps (c := { c with pos := c.pos + 1 }) (e := { c' with pos := c'.pos + 1 })
    mark hdepth ?_
  refine (Steps.read _).bind ?_
  -- each member moves past its key, and the mapping's end stands in the document
  have hfuel : n < d.items.size + 1 := by
    have hle := hms.pos_le
    have hlt := (getElem?_eq_some_iff.mp hclose).1
    simp only at hle
    omega
  apply Steps.bind
  · rw [Std.Legacy.Range.forIn_eq_forIn_range']
    refine forIn_members ?_ ?_ hms hclose _ _ (by simpa [Std.Legacy.Range.size] using hfuel)
    · intro i st c tag key style mark st₁ c₁ hkey hvalue
      exact (peek_steps hkey).bind ((next_steps hkey).bind (hvalue.bind (Steps.pure _ _)))
    · intro i st c mark hend
      exact (peek_steps hend).bind (Steps.pure _ _)
  · rw [hfinish]
    exact (Steps.pure a _).bind ((next_steps hclose).bind (Steps.pure a _))

/-! ## Runs -/

/-- A reader that succeeds on the first document of a stream that holds nothing else, and
that stopped on no error, gives its value. -/
theorem runOn_of_steps {x : Read α} {stream : Stream} {a : α} {c' : Cursor}
    (h : Steps x stream.first {} a c') (hfailure : stream.first.failure = none)
    (hmore : stream.more = false) : runOn stream x = .ok a := by
  unfold runOn
  unfold Steps at h
  rw [h]
  simp only [hfailure, hmore]
  rfl

end

end TenderClient.Yaml.Read
