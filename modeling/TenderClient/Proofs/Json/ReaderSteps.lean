import TenderClient.Json.Decode
/-!
# Readers, step by step

What a reader does to a text it succeeds on: `Reads r d B p v q` says that `r`, started at
offset `p` of the bytes `B`, returns `v` and stops at offset `q`, whatever nesting room above
`d` it is given, and gives that room back. Readers are composed by `Reads.bind`, so a
reading of a whole value is the chain of the readings of its pieces.

`At B p w` says that the bytes `w` stand at offset `p`. Each lexical step of the reader gets
one lemma here, stated for the bytes a compact text has at that point: no blank is ever
skipped, a comma or a closing bracket follows each item, and the text ends right after
its value (`run_of_reads`).
-/

set_option autoImplicit false

namespace TenderClient.Json.Reader

/-- From the cursor `c`, `r` returns `v` and leaves the cursor `c'`. -/
def Runs {α : Type} (r : Reader α) (c : Cursor) (v : α) (c' : Cursor) : Prop :=
  (ExceptT.run r).run c = (.ok v, c')

/-- From offset `p` of `B`, `r` returns `v` and stops at `q`, with any room above `d`. -/
def Reads {α : Type} (r : Reader α) (d : Nat) (B : ByteArray) (p : Nat) (v : α) (q : Nat) :
    Prop :=
  ∀ room, d < room → Runs r ⟨B, p, room⟩ v ⟨B, q, room⟩

/-- The bytes `w` stand at offset `p` of `B`. -/
def At (B : ByteArray) (p : Nat) (w : List UInt8) : Prop :=
  ∀ i (h : i < w.length), B[p + i]? = some w[i]

section

variable {α β : Type} {d : Nat} {B : ByteArray}

/-! ## Composing runs and readings -/

theorem Runs.pure (a : α) (c : Cursor) : Runs (Pure.pure a : Reader α) c a c := rfl

theorem Runs.get (c : Cursor) : Runs (MonadState.get : Reader Cursor) c c c := rfl

theorem Runs.set (c c' : Cursor) : Runs (MonadStateOf.set c' : Reader PUnit) c () c' := rfl

theorem Runs.bind {x : Reader α} {g : α → Reader β} {c c₁ c₂ : Cursor} {a : α} {b : β}
    (hx : Runs x c a c₁) (hg : Runs (g a) c₁ b c₂) : Runs (x >>= g) c b c₂ := by
  unfold Runs at hx hg ⊢
  simp only [ExceptT.run_bind, StateT.run_bind, hx]
  exact hg

/-- After a first step that runs, a reader continues as its second step from where the first
left off. -/
theorem Runs.run_bind {x : Reader α} {g : α → Reader β} {c c₁ : Cursor} {a : α}
    (hx : Runs x c a c₁) : (ExceptT.run (x >>= g)).run c = (ExceptT.run (g a)).run c₁ := by
  unfold Runs at hx
  simp only [ExceptT.run_bind, StateT.run_bind, hx]
  rfl

theorem Reads.pure (a : α) (p : Nat) : Reads (Pure.pure a : Reader α) d B p a p :=
  fun _ _ => rfl

theorem Reads.bind {x : Reader α} {g : α → Reader β} {p p₁ p₂ : Nat} {a : α} {b : β}
    (hx : Reads x d B p a p₁) (hg : Reads (g a) d B p₁ b p₂) : Reads (x >>= g) d B p b p₂ :=
  fun room hroom => (hx room hroom).bind (hg room hroom)

theorem Reads.map {x : Reader α} (f : α → β) {p q : Nat} {a : α} (hx : Reads x d B p a q) :
    Reads (f <$> x) d B p (f a) q := by
  rw [map_eq_pure_bind]
  exact hx.bind (Reads.pure _ _)

theorem Reads.mono {r : Reader α} {d' : Nat} {p q : Nat} {v : α} (h : Reads r d B p v q)
    (hd : d ≤ d') : Reads r d' B p v q :=
  fun room hroom => h room (by omega)

/-- A reader that first looks at the cursor reads as the reader it chooses for it. -/
theorem Reads.get_bind {f : Cursor → Reader α} {p q : Nat} {v : α}
    (h : ∀ room, d < room → Reads (f ⟨B, p, room⟩) d B p v q) : Reads (get >>= f) d B p v q := by
  intro room hroom
  exact (Runs.get _).bind (h room hroom room hroom)

/-! ## Bytes at an offset -/

theorem at_nil (p : Nat) : At B p [] := fun i h => absurd h (Nat.not_lt_zero i)

theorem at_cons {p : Nat} {b : UInt8} {w : List UInt8} :
    At B p (b :: w) ↔ B[p]? = some b ∧ At B (p + 1) w := by
  constructor
  · intro h
    have h0 := h 0 (Nat.succ_pos _)
    rw [Nat.add_zero, List.getElem_cons_zero] at h0
    refine ⟨h0, fun i hi => ?_⟩
    have := h (i + 1) (by simp; omega)
    rwa [show p + (i + 1) = p + 1 + i by omega] at this
  · rintro ⟨h0, hw⟩ i hi
    cases i with
    | zero => simpa using h0
    | succ i =>
      have := hw i (by simpa using hi)
      rwa [show p + 1 + i = p + (i + 1) by omega] at this

theorem at_append {p : Nat} {w₁ w₂ : List UInt8} :
    At B p (w₁ ++ w₂) ↔ At B p w₁ ∧ At B (p + w₁.length) w₂ := by
  induction w₁ generalizing p with
  | nil => simp [at_nil]
  | cons b w ih =>
    rw [List.cons_append, at_cons, at_cons, ih, List.length_cons,
      show p + 1 + w.length = p + (w.length + 1) by omega, and_assoc]

theorem at_singleton {p : Nat} {b : UInt8} : At B p [b] ↔ B[p]? = some b := by
  simp [at_cons, at_nil]

/-- Bytes that stand in `B` end within it. -/
theorem At.le_size {p : Nat} {w : List UInt8} (h : At B p w) (hw : w ≠ []) :
    p + w.length ≤ B.size := by
  obtain ⟨i, hi⟩ : ∃ i, w.length = i + 1 := Nat.exists_eq_succ_of_ne_zero (by simpa using hw)
  have := h i (by omega)
  have hlt : p + i < B.size := (getElem?_eq_some_iff.mp this).1
  omega

/-! ## Lexical steps -/

theorem peek_reads (p : Nat) : Reads peek d B p B[p]? p := fun _ _ => rfl

theorem bump_reads (p : Nat) : Reads bump d B p () (p + 1) := fun _ _ => rfl

theorem next_reads {p : Nat} {b : UInt8} (h : B[p]? = some b) :
    Reads next d B p (some b) (p + 1) := by
  unfold next
  refine (peek_reads p).bind ?_
  rw [h]
  exact (bump_reads p).bind (Reads.pure _ _)

/-- Skipping blanks stops at once on a byte that is no blank, or at the end. -/
theorem skipFrom_of_not_blank {p : Nat} (h : ∀ b, B[p]? = some b → isBlankByte b = false)
    (fuel : Nat) : skipFrom B isBlankByte p fuel = p := by
  cases fuel with
  | zero => rfl
  | succ fuel =>
    unfold skipFrom
    cases hb : B[p]? with
    | none => rfl
    | some b => simp [h b hb]

theorem skipBlank_reads {p : Nat} (h : ∀ b, B[p]? = some b → isBlankByte b = false) :
    Reads skipBlank d B p B[p]? p := by
  unfold skipBlank
  refine Reads.bind (a := ()) (fun room _ => ?_) (peek_reads p)
  show (Except.ok (), (⟨B, skipFrom B isBlankByte p (B.size - p), room⟩ : Cursor)) = _
  rw [skipFrom_of_not_blank h]

/-- A byte of a compact text where a blank could stand: it is none. -/
theorem skipBlank_reads_some {p : Nat} {b : UInt8} (h : B[p]? = some b)
    (hb : isBlankByte b = false) : Reads skipBlank d B p (some b) p := by
  have := skipBlank_reads (d := d) (B := B) (p := p) (fun b' hb' => by
    rw [h] at hb'
    cases hb'
    exact hb)
  rwa [h] at this

theorem skipBlank_reads_end {p : Nat} (h : B[p]? = none) : Reads skipBlank d B p none p := by
  have := skipBlank_reads (d := d) (B := B) (p := p) (fun b' hb' => by rw [h] at hb'; cases hb')
  rwa [h] at this

theorem expectWord_reads {p : Nat} {ws : List UInt8} (h : At B p ws) :
    Reads (expectWord ws) d B p () (p + ws.length) := by
  induction ws generalizing p with
  | nil => exact Reads.pure _ _
  | cons b bs ih =>
    obtain ⟨hb, hbs⟩ := at_cons.mp h
    unfold expectWord
    refine (next_reads hb).bind ?_
    simp only [beq_self_eq_true, if_true]
    rw [List.length_cons, show p + (bs.length + 1) = p + 1 + bs.length by omega]
    exact ih hbs

theorem Runs.attempt {r : Reader α} {c c' : Cursor} {v : α} (h : Runs r c v c') :
    Runs (Reader.attempt r) c (.ok v) c' := by
  unfold Runs at h ⊢
  unfold Reader.attempt
  simp only [tryCatch, MonadExcept.tryCatch, tryCatchThe, MonadExceptOf.tryCatch,
    ExceptT.tryCatch, ExceptT.map, ExceptT.mk, ExceptT.run, StateT.run_bind] at h ⊢
  rw [h]
  rfl

/-! ## Arrays and objects -/

/-- Opening a bracket takes it and one level of room. -/
theorem Runs.enter {p room : Nat} (h : 1 < room) :
    Runs Reader.enter ⟨B, p, room⟩ () ⟨B, p + 1, room - 1⟩ := by
  unfold Reader.enter
  refine (Runs.get _).bind ?_
  rw [if_neg (by simp only [Nat.not_le]; exact h)]
  exact Runs.set _ _

/-- Closing a bracket gives the level back. -/
theorem Runs.leave {p room : Nat} (h : 0 < room) :
    Runs Reader.leave ⟨B, p, room - 1⟩ () ⟨B, p, room⟩ := by
  show (Except.ok (), (⟨B, p, room - 1 + 1⟩ : Cursor)) = _
  rw [Nat.sub_add_cancel h]

/-- A bracketed body read from after its opening bracket, and then closed. -/
theorem bracketed_reads {body : Reader α} {close : Reader Unit} {p p₁ p₂ : Nat}
    {v : α} (hb : Reads body d B (p + 1) v p₁) (hc : Reads close d B p₁ () p₂) :
    Reads (bracketed body close) (d + 1) B p v p₂ := by
  intro room hroom
  unfold bracketed
  refine (Runs.enter (show 1 < room by omega)).bind ?_
  refine ((hb (room - 1) (by omega)).attempt).bind ?_
  refine (Runs.leave (show 0 < room by omega)).bind ?_
  refine ((hc room (by omega)).attempt).bind ?_
  exact Runs.pure _ _

/-- The closing bracket of an array: no item follows. -/
theorem itemFollows_close {p : Nat} (first : Bool) (h : B[p]? = some 93) :
    Reads (itemFollows first) d B p false p := by
  unfold itemFollows
  exact (skipBlank_reads_some h (by decide)).bind (Reads.pure _ _)

/-- The first item of an array, just after its bracket. -/
theorem itemFollows_first {p : Nat} {b : UInt8} (h : B[p]? = some b)
    (hb : isBlankByte b = false) (hclose : b ≠ 93) : Reads (itemFollows true) d B p true p := by
  unfold itemFollows
  refine (skipBlank_reads_some h hb).bind ?_
  split
  · rename_i heq
    cases heq
    exact absurd rfl hclose
  · exact Reads.pure _ _
  · rename_i b' _ _ heq
    -- any first byte but a closing bracket starts an item
    cases heq
    simp only [if_true]
    exact Reads.pure _ _
  · rename_i heq
    cases heq

/-- A comma and the next item of an array. -/
theorem itemFollows_comma {p : Nat} {b : UInt8} (h : B[p]? = some 44) (h' : B[p + 1]? = some b)
    (hb : isBlankByte b = false) (hclose : b ≠ 93) :
    Reads (itemFollows false) d B p true (p + 1) := by
  unfold itemFollows
  refine (skipBlank_reads_some h (by decide)).bind ?_
  simp only [Bool.false_eq_true, if_false]
  refine (bump_reads p).bind ((skipBlank_reads_some h' hb).bind ?_)
  split
  · rename_i heq
    cases heq
    exact absurd rfl hclose
  · exact Reads.pure _ _
  · rename_i heq
    cases heq

/-- The closing brace of an object: no member follows. -/
theorem memberFollows_close {p : Nat} (first : Bool) (h : B[p]? = some 125) :
    Reads (memberFollows first) d B p false p := by
  unfold memberFollows
  exact (skipBlank_reads_some h (by decide)).bind (Reads.pure _ _)

/-- The first member of an object: the quote that opens its key is taken. -/
theorem memberFollows_first {p : Nat} (h : B[p]? = some 34) :
    Reads (memberFollows true) d B p true (p + 1) := by
  unfold memberFollows
  exact (skipBlank_reads_some h (by decide)).bind ((bump_reads p).bind (Reads.pure _ _))

/-- A comma and the quote that opens the next key. -/
theorem memberFollows_comma {p : Nat} (h : B[p]? = some 44) (h' : B[p + 1]? = some 34) :
    Reads (memberFollows false) d B p true (p + 2) := by
  unfold memberFollows
  refine (skipBlank_reads_some h (by decide)).bind ?_
  refine (bump_reads p).bind ((skipBlank_reads_some h' (by decide)).bind ?_)
  exact (bump_reads (p + 1)).bind (Reads.pure _ _)

theorem colon_reads {p : Nat} (h : B[p]? = some 58) : Reads colon d B p () (p + 1) := by
  unfold colon
  exact (skipBlank_reads_some h (by decide)).bind (bump_reads p)

theorem closeArray_reads {p : Nat} (h : B[p]? = some 93) : Reads closeArray d B p () (p + 1) := by
  unfold closeArray
  exact (skipBlank_reads_some h (by decide)).bind (bump_reads p)

theorem closeObject_reads {p : Nat} (h : B[p]? = some 125) :
    Reads closeObject d B p () (p + 1) := by
  unfold closeObject
  exact (skipBlank_reads_some h (by decide)).bind (bump_reads p)

theorem expectEnd_reads {p : Nat} (h : B[p]? = none) : Reads expectEnd d B p () p := by
  unfold expectEnd
  exact (skipBlank_reads_end h).bind (Reads.pure _ _)

/-! ## Sequences and records -/

/-- The bytes of the items of an array: each item's bytes, a comma before each but the
first (`first`), or before every one (not `first`). -/
def itemBytes {α : Type} (enc : α → List UInt8) : Bool → List α → List UInt8
  | _, [] => []
  | true, x :: rest => enc x ++ itemBytes enc false rest
  | false, x :: rest => 44 :: enc x ++ itemBytes enc false rest

/-- The items of an array, each read from its own bytes where a comma or the closing
bracket follows it, and none of which starts with a blank or a bracket. -/
theorem itemsOf_reads {item : Reader α} {enc : α → List UInt8}
    (hitem : ∀ x q, At B q (enc x) →
      (B[q + (enc x).length]? = some 44 ∨ B[q + (enc x).length]? = some 93) →
      Reads item d B q x (q + (enc x).length))
    (hstart : ∀ x, ∃ b rest, enc x = b :: rest ∧ isBlankByte b = false ∧ b ≠ 93) :
    ∀ (l : List α) (first : Bool) (fuel p : Nat), l.length < fuel →
      At B p (itemBytes enc first l ++ [93]) →
      Reads (itemsOf item fuel first) d B p l (p + (itemBytes enc first l).length) := by
  intro l
  induction l with
  | nil =>
    intro first fuel p hfuel hat
    obtain ⟨fuel, rfl⟩ : ∃ f, fuel = f + 1 := Nat.exists_eq_succ_of_ne_zero (by simp at hfuel; omega)
    have h93 : B[p]? = some 93 := by simpa [itemBytes, at_singleton] using hat
    unfold itemsOf
    exact (itemFollows_close first h93).bind (Reads.pure _ _)
  | cons x rest ih =>
    intro first fuel p hfuel hat
    obtain ⟨fuel, rfl⟩ : ∃ f, fuel = f + 1 := Nat.exists_eq_succ_of_ne_zero (by omega)
    obtain ⟨b, bs, henc, hblank, hclose⟩ := hstart x
    -- what follows the item is the next comma, or the closing bracket
    have hafter : ∀ q, At B q (enc x ++ itemBytes enc false rest ++ [93]) →
        B[q + (enc x).length]? = some 44 ∨ B[q + (enc x).length]? = some 93 := by
      intro q hq
      rw [List.append_assoc, at_append] at hq
      cases rest with
      | nil => exact Or.inr (at_singleton.mp (by simpa [itemBytes] using hq.2))
      | cons y ys => exact Or.inl (at_cons.mp (by simpa [itemBytes] using hq.2)).1
    unfold itemsOf
    cases first with
    | true =>
      have hx : At B p (enc x ++ itemBytes enc false rest ++ [93]) := by simpa [itemBytes] using hat
      have hx₁ := (at_append.mp (List.append_assoc _ _ _ ▸ hx)).1
      have hb : B[p]? = some b := (at_cons.mp (henc ▸ hx₁)).1
      refine (itemFollows_first hb hblank hclose).bind ?_
      simp only [if_true]
      refine (hitem x p hx₁ (hafter p hx)).bind ?_
      have hrest := ih false fuel (p + (enc x).length) (by simp at hfuel; omega)
        (by rw [List.append_assoc, at_append] at hx; exact hx.2)
      refine hrest.bind ?_
      simp only [itemBytes, List.length_append, ← Nat.add_assoc]
      exact Reads.pure _ _
    | false =>
      have hx : At B (p + 1) (enc x ++ itemBytes enc false rest ++ [93]) := by
        simpa [itemBytes] using (at_cons.mp (by simpa [itemBytes] using hat)).2
      have h44 : B[p]? = some 44 := (at_cons.mp (by simpa [itemBytes] using hat)).1
      have hx₁ := (at_append.mp (List.append_assoc _ _ _ ▸ hx)).1
      have hb : B[p + 1]? = some b := (at_cons.mp (henc ▸ hx₁)).1
      refine (itemFollows_comma h44 hb hblank hclose).bind ?_
      simp only [if_true]
      refine (hitem x (p + 1) hx₁ (hafter (p + 1) hx)).bind ?_
      have hrest := ih false fuel (p + 1 + (enc x).length) (by simp at hfuel; omega)
        (by rw [List.append_assoc, at_append] at hx; exact hx.2)
      refine hrest.bind ?_
      simp only [itemBytes, List.length_cons, List.length_append]
      rw [show p + 1 + (enc x).length + (itemBytes enc false rest).length =
        p + ((enc x).length + 1 + (itemBytes enc false rest).length) by omega]
      exact Reads.pure _ _

/-- One member of an object: its key, then what `member` reads of its value. -/
theorem membersOf_step {σ : Type} {member : σ → String → Reader σ} {fuel p p₁ p₂ p₃ q : Nat}
    {first : Bool} {st st' v : σ} {key : String}
    (hf : Reads (memberFollows first) d B p true p₁) (hk : Reads stringBody d B p₁ key p₂)
    (hm : Reads (member st key) d B p₂ st' p₃)
    (hrest : Reads (membersOf member fuel false st') d B p₃ v q) :
    Reads (membersOf member (fuel + 1) first st) d B p v q := by
  unfold membersOf
  refine hf.bind ?_
  simp only [if_true]
  exact hk.bind (hm.bind hrest)

/-- The closing brace of an object ends its members. -/
theorem membersOf_end {σ : Type} {member : σ → String → Reader σ} {fuel p : Nat} {first : Bool}
    {st : σ} (h : B[p]? = some 125) : Reads (membersOf member (fuel + 1) first st) d B p st p := by
  unfold membersOf
  exact (memberFollows_close first h).bind (Reads.pure _ _)

/-- An array of items, from its bracket, given how its items read. -/
theorem sequence_reads {item : Reader α} {p q : Nat} {l : List α} (h91 : B[p]? = some 91)
    (hitems : Reads (itemsOf item (B.size - p + 1) true) d B (p + 1) l q) (h93 : B[q]? = some 93) :
    Reads (sequence item) (d + 1) B p l (q + 1) := by
  unfold sequence
  refine (skipBlank_reads_some h91 (by decide)).bind ?_
  exact Reads.get_bind fun _ _ => bracketed_reads hitems (closeArray_reads h93)

/-- A record written as an object, from its brace, given how its members read and how it is
finished. -/
theorem record_reads {σ : Type} {expected : String} {init : σ} {member : σ → String → Reader σ}
    {finish : σ → Reader α} {fromFields : Reader α} {p q : Nat} {st : σ} {v : α}
    (h123 : B[p]? = some 123)
    (hmembers : Reads (membersOf member (B.size - p + 1) true init) d B (p + 1) st q)
    (hfinish : Reads (finish st) d B q v q) (h125 : B[q]? = some 125) :
    Reads (record expected init member finish fromFields) (d + 1) B p v (q + 1) := by
  unfold record
  refine (skipBlank_reads_some h123 (by decide)).bind ?_
  exact Reads.get_bind fun _ _ =>
    bracketed_reads (hmembers.bind hfinish) (closeObject_reads h125)

/-- A reader that reads a whole text, with no more nesting than the reader allows, reads it
as a document. -/
theorem run_of_reads {r : Reader α} {text : String} {v : α} {d : Nat} (hd : d < 128)
    (h : Reads r d text.toUTF8 0 v text.toUTF8.size) : run r text = .ok v := by
  have hend : text.toUTF8[text.toUTF8.size]? = none := getElem?_neg _ _ (Nat.lt_irrefl _)
  have hwhole : Runs (r >>= fun v => expectEnd >>= fun _ => Pure.pure v)
      ⟨text.toUTF8, 0, 128⟩ v ⟨text.toUTF8, text.toUTF8.size, 128⟩ :=
    (h 128 hd).bind ((expectEnd_reads (d := d) hend 128 hd).bind (Runs.pure v _))
  unfold Runs at hwhole
  unfold run
  dsimp only
  rw [hwhole]

end

end TenderClient.Json.Reader
