import TenderClient.Proofs.Json.ScalarRead
import TenderClient.Sync.Server
/-!
# Records read back from their compact text

Every record the library writes as JSON reads back as itself. The compact text of an array
is its items' texts between brackets, separated by commas, and that of an object its
members' keys and values the same way between braces (`utf8_compact_array`,
`utf8_compact_object`); the readers of `Json.Decode` take these bytes apart again:

* a list of identifiers through `sequence ident` (`identList_reads`);
* the members of an object through `membersOf`, each by its own member reader, whatever the
  order of the keys (`membersOf_reads`);
* a user record with or without its address (`userRecord_reads`), and a payload with its
  lists in the written order or in the alphabetical order of the map view the server is
  sent (`payload_reads`, `payload_reads_normalized`).

`records_read_back` collects the round trips of whole texts.
-/

set_option autoImplicit false

namespace TenderClient.Json.Reader

/-! ## The bytes of arrays and objects -/

theorem itemBytes_map {α β : Type} (enc : β → List UInt8) (f : α → β) (first : Bool)
    (l : List α) : itemBytes enc first (l.map f) = itemBytes (fun x => enc (f x)) first l := by
  induction l generalizing first with
  | nil => cases first <;> rfl
  | cons x l ih => cases first <;> simp [itemBytes, ih]

/-- Items each at least a byte long are no more than their bytes. -/
theorem length_le_itemBytes {α : Type} {enc : α → List UInt8} (h : ∀ x, enc x ≠ [])
    (first : Bool) (l : List α) : l.length ≤ (itemBytes enc first l).length := by
  induction l generalizing first with
  | nil => simp
  | cons x l ih =>
    have hx : 0 < (enc x).length := List.length_pos_iff.mpr (h x)
    have hl := ih false
    cases first <;> simp [itemBytes] <;> omega

@[simp] theorem utf8_comma : utf8 "," = [44] := rfl

@[simp] theorem utf8_colon : utf8 ":" = [58] := rfl

theorem utf8_compactItems (items : List Json) :
    utf8 (compactItems items) = itemBytes (fun j => utf8 j.compact) true items := by
  induction items with
  | nil => rfl
  | cons x rest ih =>
    cases rest with
    | nil => simp [compactItems, itemBytes]
    | cons y ys =>
      rw [compactItems, utf8_append, utf8_append, ih, utf8_comma]
      · simp only [itemBytes, List.append_assoc, List.cons_append, List.nil_append]
      · exact List.cons_ne_nil y ys

theorem utf8_compact_array (items : List Json) :
    utf8 (Json.array items).compact =
      91 :: itemBytes (fun j => utf8 j.compact) true items ++ [93] := by
  rw [compact, utf8_append, utf8_append, utf8_compactItems]
  rfl

/-- The bytes of a member of an object: its key's literal, a colon and its value. -/
def memberBytes (m : String × Json) : List UInt8 := utf8 (quote m.1) ++ 58 :: utf8 m.2.compact

theorem utf8_compactMembers (ms : List (String × Json)) :
    utf8 (compactMembers ms) = itemBytes memberBytes true ms := by
  induction ms with
  | nil => rfl
  | cons m rest ih =>
    obtain ⟨k, v⟩ := m
    cases rest with
    | nil => simp [compactMembers, itemBytes, memberBytes, utf8_append]
    | cons m' ms =>
      rw [compactMembers, utf8_append, utf8_append, utf8_append, utf8_append, ih, utf8_colon,
        utf8_comma]
      · simp only [itemBytes, memberBytes, List.append_assoc, List.cons_append, List.nil_append]
      · exact List.cons_ne_nil m' ms

theorem utf8_compact_object (ms : List (String × Json)) :
    utf8 (Json.object ms).compact = 123 :: itemBytes memberBytes true ms ++ [125] := by
  rw [compact, utf8_append, utf8_append, utf8_compactMembers]
  rfl

theorem utf8_listJson (l : List Ident) :
    utf8 (Ident.listJson l).compact = 91 :: itemBytes (fun x => utf8 x.render) true l ++ [93] := by
  rw [Ident.listJson, utf8_compact_array, itemBytes_map]
  rfl

/-- A member of an object as its reader takes it: the key, the value, and the state the
member's reader leaves. -/
structure MemberRead (σ : Type) where
  key : String
  value : Json
  after : σ

/-- The member as it stands in an object. -/
def MemberRead.pair {σ : Type} (m : MemberRead σ) : String × Json := (m.key, m.value)

/-- Each member's reader, from its colon, takes the member's value where a comma or the
closing brace follows it, and leaves its state to the next member. -/
def MembersRead {σ : Type} (member : σ → String → Reader σ) (d : Nat) (B : ByteArray) :
    σ → List (MemberRead σ) → Prop
  | _, [] => True
  | st, m :: ms =>
    (∀ q, At B q (58 :: utf8 m.value.compact) →
      (B[q + 1 + (utf8 m.value.compact).length]? = some 44 ∨
        B[q + 1 + (utf8 m.value.compact).length]? = some 125) →
      Reads (member st m.key) d B q m.after (q + 1 + (utf8 m.value.compact).length)) ∧
    MembersRead member d B m.after ms

theorem MembersRead.cons {σ : Type} {member : σ → String → Reader σ} {d : Nat} {B : ByteArray}
    {st : σ} {k : String} {v : Json} {a : σ} {ms : List (MemberRead σ)}
    (hm : ∀ q, At B q (58 :: utf8 v.compact) →
      (B[q + 1 + (utf8 v.compact).length]? = some 44 ∨
        B[q + 1 + (utf8 v.compact).length]? = some 125) →
      Reads (member st k) d B q a (q + 1 + (utf8 v.compact).length))
    (hrest : MembersRead member d B a ms) : MembersRead member d B st (⟨k, v, a⟩ :: ms) :=
  ⟨hm, hrest⟩

theorem MembersRead.nil {σ : Type} {member : σ → String → Reader σ} {d : Nat} {B : ByteArray}
    {st : σ} : MembersRead member d B st [] := trivial

section

variable {B : ByteArray}

/-! ## Lists of identifiers -/

/-- A comma or a closing bracket or brace ends a number. -/
theorem endsNumber_of_punct {q : Nat} {b : UInt8} (h : B[q]? = some b)
    (hb : b = 44 ∨ b = 93 ∨ b = 125) : EndsNumber B q := by
  refine Or.inr ⟨b, h, ?_⟩
  rcases hb with rfl | rfl | rfl <;> decide

/-- An identifier's text starts with a digit: neither a blank nor a closing bracket. -/
theorem render_starts (x : Ident) :
    ∃ b rest, utf8 x.render = b :: rest ∧ isBlankByte b = false ∧ b ≠ 93 := by
  obtain ⟨b, ws, hbytes, hdigits, -, -⟩ := utf8_render_digits x
  obtain ⟨hblank, -, -, -, -, h93⟩ := digit_facts (hdigits b (List.mem_cons_self ..))
  exact ⟨b, ws, hbytes, hblank, h93⟩

/-- A list of identifiers reads back from its array. -/
theorem identList_reads {p : Nat} (l : List Ident)
    (hat : At B p (utf8 (Ident.listJson l).compact)) :
    Reads (sequence ident) 1 B p l (p + (utf8 (Ident.listJson l).compact).length) := by
  rw [utf8_listJson] at hat ⊢
  have hsize := hat.le_size (by simp)
  obtain ⟨h91, hitems⟩ := at_cons.mp hat
  have hnonempty : ∀ x : Ident, utf8 x.render ≠ [] := by
    intro x
    obtain ⟨b, rest, h, -⟩ := render_starts x
    rw [h]
    exact List.cons_ne_nil b rest
  have hlen := length_le_itemBytes hnonempty true l
  have hitem : ∀ (x : Ident) q, At B q (utf8 x.render) →
      (B[q + (utf8 x.render).length]? = some 44 ∨ B[q + (utf8 x.render).length]? = some 93) →
      Reads ident 0 B q x (q + (utf8 x.render).length) :=
    fun x q hx hnext => ident_reads x hx (hnext.elim (endsNumber_of_punct · (by decide))
      (endsNumber_of_punct · (by decide)))
  have hread := itemsOf_reads hitem render_starts l true (B.size - p + 1) (p + 1)
    (by simp at hsize; omega) hitems
  have h93 : B[p + 1 + (itemBytes (fun x : Ident => utf8 x.render) true l).length]? = some 93 :=
    at_singleton.mp (at_append.mp hitems).2
  have hseq := sequence_reads h91 hread h93
  rw [show p + 1 + (itemBytes (fun x : Ident => utf8 x.render) true l).length + 1 =
    p + (91 :: itemBytes (fun x : Ident => utf8 x.render) true l ++ [93]).length by simp; omega]
    at hseq
  exact hseq

/-! ## Objects -/

/-- The key of a member, read from just after its opening quote. -/
theorem key_reads {p d : Nat} (k : String) (hat : At B p (utf8 (quote k))) :
    Reads stringBody d B (p + 1) k (p + (utf8 (quote k)).length) := by
  rw [utf8_quote] at hat ⊢
  have hbody := stringBody_reads k (at_cons.mp hat).2
  rw [show p + (34 :: k.toList.flatMap escBytes ++ [34] : List UInt8).length =
    p + 1 + (k.toList.flatMap escBytes).length + 1 by simp; omega]
  exact hbody.mono (Nat.zero_le d)

/-- The members of an object, each read by its own member reader in turn: the state left
is the last member's. -/
theorem membersOf_reads {σ : Type} {member : σ → String → Reader σ} {d : Nat} :
    ∀ (ms : List (MemberRead σ)) (st : σ) (first : Bool) (fuel p : Nat), ms.length < fuel →
      MembersRead member d B st ms →
      At B p (itemBytes memberBytes first (ms.map MemberRead.pair) ++ [125]) →
      Reads (membersOf member fuel first st) d B p (ms.foldl (fun _ m => m.after) st)
        (p + (itemBytes memberBytes first (ms.map MemberRead.pair)).length) := by
  intro ms
  induction ms with
  | nil =>
    intro st first fuel p hfuel _ hat
    obtain ⟨fuel, rfl⟩ : ∃ f, fuel = f + 1 :=
      Nat.exists_eq_succ_of_ne_zero (by simp at hfuel; omega)
    have h125 : B[p]? = some 125 := by simpa [itemBytes, at_singleton] using hat
    exact membersOf_end h125
  | cons m rest ih =>
    intro st first fuel p hfuel hchain hat
    obtain ⟨fuel, rfl⟩ : ∃ f, fuel = f + 1 := Nat.exists_eq_succ_of_ne_zero (by omega)
    obtain ⟨hm, hrest⟩ := hchain
    -- the member's key starts at `p₁`, after the separator `first` asks for
    have hbody : ∀ p₁, At B p₁ (memberBytes m.pair ++
          itemBytes memberBytes false (rest.map MemberRead.pair) ++ [125]) →
        (B[p₁]? = some 34 → Reads (memberFollows first) d B p true (p₁ + 1)) →
        Reads (membersOf member (fuel + 1) first st) d B p
          ((m :: rest).foldl (fun _ m => m.after) st)
          (p₁ + (memberBytes m.pair).length +
            (itemBytes memberBytes false (rest.map MemberRead.pair)).length) := by
      intro p₁ hat₁ hf
      rw [List.append_assoc, at_append] at hat₁
      obtain ⟨hmember, hnext⟩ := hat₁
      obtain ⟨hkey, hvalue⟩ := at_append.mp hmember
      have h34 : B[p₁]? = some 34 := by
        rw [utf8_quote] at hkey
        exact (at_cons.mp hkey).1
      have hlen : (memberBytes m.pair).length =
          (utf8 (quote m.key)).length + 1 + (utf8 m.value.compact).length := by
        simp [memberBytes, MemberRead.pair]
        omega
      -- what follows the value is the next comma, or the closing brace
      have hsep : B[p₁ + (memberBytes m.pair).length]? = some 44 ∨
          B[p₁ + (memberBytes m.pair).length]? = some 125 := by
        cases rest with
        | nil => exact Or.inr (at_singleton.mp (by simpa [itemBytes] using hnext))
        | cons y ys => exact Or.inl (at_cons.mp (by simpa [itemBytes] using hnext)).1
      have hpos : p₁ + (memberBytes m.pair).length =
          p₁ + (utf8 (quote m.key)).length + 1 + (utf8 m.value.compact).length := by
        omega
      rw [hpos] at hsep
      have hm' := hm (p₁ + (utf8 (quote m.key)).length) hvalue hsep
      refine membersOf_step (hf h34) (key_reads m.key hkey) hm' ?_
      rw [show p₁ + (utf8 (quote m.key)).length + 1 + (utf8 m.value.compact).length =
        p₁ + (memberBytes m.pair).length by omega]
      exact ih m.after false fuel (p₁ + (memberBytes m.pair).length) (by simp at hfuel; omega)
        hrest hnext
    cases first with
    | true =>
      have hread := hbody p (by simpa [itemBytes] using hat) memberFollows_first
      simp only [List.map_cons, itemBytes, List.length_append, ← Nat.add_assoc]
      exact hread
    | false =>
      obtain ⟨h44, hat₁⟩ := at_cons.mp (by simpa [itemBytes] using hat)
      have hread := hbody (p + 1) (by simpa using hat₁) (memberFollows_comma h44)
      simp only [List.map_cons, itemBytes, List.length_cons, List.length_append]
      rw [show p + ((memberBytes m.pair).length + 1 +
          (itemBytes memberBytes false (rest.map MemberRead.pair)).length) =
        p + 1 + (memberBytes m.pair).length +
          (itemBytes memberBytes false (rest.map MemberRead.pair)).length by omega]
      exact hread

/-- A field set once, read from its colon: the value its reader takes. -/
theorem once_reads {α : Type} {name : String} {r : Reader α} {d q q' : Nat} {v : α}
    (hcolon : B[q]? = some 58) (hr : Reads r d B (q + 1) v q') :
    Reads (once name none r) d B q v q' := by
  unfold once memberValue
  exact (colon_reads hcolon).bind hr

/-- A record written as an object reads back as what its finisher makes of the state the
last member leaves. -/
theorem record_object_reads {σ α : Type} {expected : String} {init : σ}
    {member : σ → String → Reader σ} {finish : σ → Reader α} {fromFields : Reader α}
    {d p : Nat} {v : α} (ms : List (MemberRead σ)) (hchain : MembersRead member d B init ms)
    (hfinish : ∀ q, Reads (finish (ms.foldl (fun _ m => m.after) init)) d B q v q)
    (hat : At B p (utf8 (Json.object (ms.map MemberRead.pair)).compact)) :
    Reads (record expected init member finish fromFields) (d + 1) B p v
      (p + (utf8 (Json.object (ms.map MemberRead.pair)).compact).length) := by
  rw [utf8_compact_object] at hat ⊢
  have hsize := hat.le_size (by simp)
  obtain ⟨h123, hmembers⟩ := at_cons.mp hat
  have hnonempty : ∀ m : String × Json, memberBytes m ≠ [] := by
    intro m
    simp [memberBytes, utf8_quote]
  have hlen : ms.length ≤ (itemBytes memberBytes true (ms.map MemberRead.pair)).length := by
    have := length_le_itemBytes hnonempty true (ms.map MemberRead.pair)
    rwa [List.length_map] at this
  have hread := membersOf_reads ms init true (B.size - p + 1) (p + 1)
    (by simp at hsize; omega) hchain hmembers
  have h125 : B[p + 1 + (itemBytes memberBytes true (ms.map MemberRead.pair)).length]? =
      some 125 :=
    at_singleton.mp (at_append.mp hmembers).2
  rw [show p + (123 :: itemBytes memberBytes true (ms.map MemberRead.pair) ++ [125] :
      List UInt8).length =
    p + 1 + (itemBytes memberBytes true (ms.map MemberRead.pair)).length + 1 by simp; omega]
  exact record_reads h123 hread (hfinish _) h125

/-! ## User records -/

/-- The identifier member of a user record, read where the identifier is still unset and a
comma or the closing brace follows it. -/
theorem id_member_reads (x : Ident) (st : UserFields) (hst : st.id = none) (q : Nat)
    (hat : At B q (58 :: utf8 x.toJson.compact))
    (hsep : B[q + 1 + (utf8 x.toJson.compact).length]? = some 44 ∨
      B[q + 1 + (utf8 x.toJson.compact).length]? = some 125) :
    Reads (userMember st "id") 0 B q { st with id := some x }
      (q + 1 + (utf8 x.toJson.compact).length) := by
  -- an identifier is written as its decimal text
  have htext : x.toJson.compact = x.render := rfl
  rw [htext] at hat hsep ⊢
  obtain ⟨h58, hx⟩ := at_cons.mp hat
  have hend : EndsNumber B (q + 1 + (utf8 x.render).length) :=
    hsep.elim (endsNumber_of_punct · (by decide)) (endsNumber_of_punct · (by decide))
  rw [userMember, if_pos rfl, hst]
  exact (once_reads h58 (ident_reads x hx hend)).bind (Reads.pure _ _)

/-- The name member of a user record, read where the name is still unset. -/
theorem username_member_reads (name : String) (st : UserFields) (hst : st.username = none)
    (q : Nat) (hat : At B q (58 :: utf8 (Json.string name).compact)) :
    Reads (userMember st "username") 0 B q { st with username := some name }
      (q + 1 + (utf8 (Json.string name).compact).length) := by
  obtain ⟨h58, hs⟩ := at_cons.mp hat
  rw [userMember, if_neg (by decide), if_pos rfl, hst]
  exact (once_reads h58 (string_reads name hs)).bind (Reads.pure _ _)

/-- The address member of a user record, read where the address is still unset. -/
theorem email_member_reads (e : String) (st : UserFields) (hst : st.email = none) (q : Nat)
    (hat : At B q (58 :: utf8 (Json.string e).compact)) :
    Reads (userMember st "email") 0 B q { st with email := some (some e) }
      (q + 1 + (utf8 (Json.string e).compact).length) := by
  obtain ⟨h58, hs⟩ := at_cons.mp hat
  rw [userMember, if_neg (by decide), if_neg (by decide), if_pos rfl, hst]
  exact (once_reads h58 (optional_string_reads e hs)).bind (Reads.pure _ _)

/-- The follower member of a user record, read where it is still unset. -/
theorem follower_member_reads (v : Bool) (st : UserFields) (hst : st.isFollower = none)
    (q : Nat) (hat : At B q (58 :: utf8 (Json.bool v).compact)) :
    Reads (userMember st "is_follower") 0 B q { st with isFollower := some v }
      (q + 1 + (utf8 (Json.bool v).compact).length) := by
  obtain ⟨h58, hb⟩ := at_cons.mp hat
  rw [userMember, if_neg (by decide), if_neg (by decide), if_neg (by decide), if_pos rfl, hst]
  exact (once_reads h58 (boolean_reads v hb)).bind (Reads.pure _ _)

/-- A user record reads back from its object, with or without its address. -/
theorem userRecord_reads {p : Nat} (r : UserRecord) (hat : At B p (utf8 r.toJson.compact)) :
    Reads userRecord 1 B p r (p + (utf8 r.toJson.compact).length) := by
  obtain ⟨x, name, email, follower⟩ := r
  unfold userRecord
  -- the address member is written only when there is an address
  cases email with
  | none =>
    let ms : List (MemberRead UserFields) :=
      [⟨"id", x.toJson, { id := some x }⟩,
        ⟨"username", .string name, { id := some x, username := some name }⟩,
        ⟨"is_follower", .bool follower,
          { id := some x, username := some name, isFollower := some follower }⟩]
    have hjson : UserRecord.toJson ⟨x, name, none, follower⟩ = .object (ms.map MemberRead.pair) :=
      rfl
    rw [hjson] at hat ⊢
    exact record_object_reads ms
      (.cons (id_member_reads x {} rfl) (.cons (fun q hq _ => username_member_reads name _ rfl q hq)
        (.cons (fun q hq _ => follower_member_reads follower _ rfl q hq) .nil)))
      (fun q => Reads.pure _ q) hat
  | some e =>
    let ms : List (MemberRead UserFields) :=
      [⟨"id", x.toJson, { id := some x }⟩,
        ⟨"username", .string name, { id := some x, username := some name }⟩,
        ⟨"email", .string e, { id := some x, username := some name, email := some (some e) }⟩,
        ⟨"is_follower", .bool follower,
          { id := some x, username := some name, email := some (some e),
            isFollower := some follower }⟩]
    have hjson : UserRecord.toJson ⟨x, name, some e, follower⟩ =
        .object (ms.map MemberRead.pair) :=
      rfl
    rw [hjson] at hat ⊢
    exact record_object_reads ms
      (.cons (id_member_reads x {} rfl) (.cons (fun q hq _ => username_member_reads name _ rfl q hq)
        (.cons (fun q hq _ => email_member_reads e _ rfl q hq)
          (.cons (fun q hq _ => follower_member_reads follower _ rfl q hq) .nil))))
      (fun q => Reads.pure _ q) hat

/-! ## Payloads -/

/-- A list of identifiers set once, read from its colon. -/
theorem once_identList_reads {name : String} {q : Nat} (l : List Ident)
    (hat : At B q (58 :: utf8 (Ident.listJson l).compact)) :
    Reads (once name none (sequence ident)) 1 B q l
      (q + 1 + (utf8 (Ident.listJson l).compact).length) := by
  obtain ⟨h58, hl⟩ := at_cons.mp hat
  exact once_reads h58 (identList_reads l hl)

section Payload

variable (P : FollowerPayload)

/-- The member of a payload's confirmed followers, read where that list is still unset. -/
theorem confirmed_member_reads (st : PayloadFields) (hst : st.confirmed = none) (q : Nat)
    (hat : At B q (58 :: utf8 (Ident.listJson P.confirmed).compact)) :
    Reads (payloadMember st "old_followers") 1 B q { st with confirmed := some P.confirmed }
      (q + 1 + (utf8 (Ident.listJson P.confirmed).compact).length) := by
  rw [payloadMember, if_pos rfl, hst]
  exact (once_identList_reads P.confirmed hat).bind (Reads.pure _ _)

/-- The member of a payload's added followers, read where that list is still unset. -/
theorem added_member_reads (st : PayloadFields) (hst : st.added = none) (q : Nat)
    (hat : At B q (58 :: utf8 (Ident.listJson P.added).compact)) :
    Reads (payloadMember st "new_followers") 1 B q { st with added := some P.added }
      (q + 1 + (utf8 (Ident.listJson P.added).compact).length) := by
  rw [payloadMember, if_neg (by decide), if_pos rfl, hst]
  exact (once_identList_reads P.added hat).bind (Reads.pure _ _)

/-- The member of a payload's removed followers, read where that list is still unset. -/
theorem removed_member_reads (st : PayloadFields) (hst : st.removed = none) (q : Nat)
    (hat : At B q (58 :: utf8 (Ident.listJson P.removed).compact)) :
    Reads (payloadMember st "unfollowers") 1 B q { st with removed := some P.removed }
      (q + 1 + (utf8 (Ident.listJson P.removed).compact).length) := by
  rw [payloadMember, if_neg (by decide), if_neg (by decide), if_pos rfl, hst]
  exact (once_identList_reads P.removed hat).bind (Reads.pure _ _)

/-- A payload reads back from its object, its lists in the written order. -/
theorem payload_reads {p : Nat} (hat : At B p (utf8 P.toJson.compact)) :
    Reads payload 2 B p P (p + (utf8 P.toJson.compact).length) := by
  let ms : List (MemberRead PayloadFields) :=
    [⟨"old_followers", Ident.listJson P.confirmed, { confirmed := some P.confirmed }⟩,
      ⟨"new_followers", Ident.listJson P.added,
        { confirmed := some P.confirmed, added := some P.added }⟩,
      ⟨"unfollowers", Ident.listJson P.removed,
        { confirmed := some P.confirmed, added := some P.added, removed := some P.removed }⟩]
  have hjson : P.toJson = .object (ms.map MemberRead.pair) := rfl
  rw [hjson] at hat ⊢
  unfold payload
  exact record_object_reads ms
    (.cons (fun q hq _ => confirmed_member_reads P {} rfl q hq)
      (.cons (fun q hq _ => added_member_reads P _ rfl q hq)
        (.cons (fun q hq _ => removed_member_reads P _ rfl q hq) .nil)))
    (fun q => Reads.pure _ q) hat

/-- The map view of a payload: its lists unchanged, their keys in alphabetical order. -/
theorem normalize_toJson :
    normalize P.toJson = .object [("new_followers", Ident.listJson P.added),
      ("old_followers", Ident.listJson P.confirmed), ("unfollowers", Ident.listJson P.removed)] := by
  -- numbers are their own map view
  have hitems : ∀ l : List Ident, normalizeItems (l.map Ident.toJson) = l.map Ident.toJson := by
    intro l
    induction l with
    | nil => rfl
    | cons x l ih =>
      rw [List.map_cons, normalizeItems, ih]
      rfl
  have hlist : ∀ l : List Ident, normalize (Ident.listJson l) = Ident.listJson l := by
    intro l
    rw [Ident.listJson, normalize, hitems]
  simp +decide only [FollowerPayload.toJson, normalize, normalizeMembers, hlist, sortMembers,
    List.foldl_cons, List.foldl_nil, insertSorted, if_false, if_true]

/-- A payload reads back from its map view, where its keys come in alphabetical order. -/
theorem payload_reads_normalized {p : Nat} (hat : At B p (utf8 (normalize P.toJson).compact)) :
    Reads payload 2 B p P (p + (utf8 (normalize P.toJson).compact).length) := by
  let ms : List (MemberRead PayloadFields) :=
    [⟨"new_followers", Ident.listJson P.added, { added := some P.added }⟩,
      ⟨"old_followers", Ident.listJson P.confirmed,
        { confirmed := some P.confirmed, added := some P.added }⟩,
      ⟨"unfollowers", Ident.listJson P.removed,
        { confirmed := some P.confirmed, added := some P.added, removed := some P.removed }⟩]
  have hjson : normalize P.toJson = .object (ms.map MemberRead.pair) := normalize_toJson P
  rw [hjson] at hat ⊢
  unfold payload
  exact record_object_reads ms
    (.cons (fun q hq _ => added_member_reads P {} rfl q hq)
      (.cons (fun q hq _ => confirmed_member_reads P _ rfl q hq)
        (.cons (fun q hq _ => removed_member_reads P _ rfl q hq) .nil)))
    (fun q => Reads.pure _ q) hat

end Payload

end

/-! ## Whole texts -/

/-- A reader that takes all of a text's bytes, within the nesting it allows, reads the
text. -/
theorem run_of_reads_utf8 {α : Type} {r : Reader α} {text : String} {v : α} {d : Nat}
    (hd : d < 128) (h : Reads r d text.toUTF8 0 v (0 + (utf8 text).length)) :
    run r text = .ok v := by
  rw [Nat.zero_add, ← size_toUTF8] at h
  exact run_of_reads hd h

/-- The end of a text ends a number. -/
theorem endsNumber_end (text : String) : EndsNumber text.toUTF8 (0 + (utf8 text).length) := by
  left
  rw [Nat.zero_add, ← size_toUTF8]
  exact getElem?_neg _ _ (Nat.lt_irrefl _)

/-- Every record the library writes as JSON reads back as itself: an identifier from its
bare decimal text, which `Ident.ofText` reads back too; a user record, with or without its
address; a payload from its text and from its map view, the text a save sends; a tag name
from its string. -/
theorem records_read_back :
    (∀ x : Ident, x.toJson.compact = Nat.repr x.val ∧ run ident x.toJson.compact = .ok x ∧
      Ident.ofText x.render = .ok x) ∧
    (∀ r : UserRecord, run userRecord r.toJson.compact = .ok r) ∧
    (∀ P : FollowerPayload, run payload P.toJson.compact = .ok P ∧
      run payload (Sync.Server.saveBody P) = .ok P) ∧
    (∀ t : TagName, run tagName t.toJson.compact = .ok t) := by
  refine ⟨fun x => ⟨rfl, ?_, ofText_render x⟩, fun r => ?_, fun P => ⟨?_, ?_⟩, fun t => ?_⟩
  · exact run_of_reads_utf8 (by decide) (ident_reads x (at_utf8 _) (endsNumber_end _))
  · exact run_of_reads_utf8 (by decide) (userRecord_reads r (at_utf8 _))
  · exact run_of_reads_utf8 (by decide) (payload_reads P (at_utf8 _))
  · exact run_of_reads_utf8 (by decide) (payload_reads_normalized P (at_utf8 _))
  · exact run_of_reads_utf8 (by decide) (tagName_reads t (at_utf8 _))

end TenderClient.Json.Reader
