import TenderClient.Proofs.Follower.Commit
/-!
# The wire text of a save

The body of a save is the compact JSON text of a tender's payload. Its form is fixed: an
object with the keys `old_followers`, `new_followers` and `unfollowers` in that order, each
an array of decimal identifiers separated by commas, with no blank anywhere
(`toJson_compact`). A payload is read off the tender's diff, so each array names the members
of its set once each in strictly ascending order (`IdSet.Enumerates`); this is the order of
the identifiers' values, for every value below `2^64`.

Building the text cannot fail once the tender has a diff, and a tender without one is
refused by name. For a store the program built, the arrays keep the diff's shape: no added
user is confirmed, and every removed user is. The main statement is `serialize_text`.
-/

set_option autoImplicit false

namespace TenderClient

/-- `l` names the members of `s`, each once, in strictly ascending order. -/
def IdSet.Enumerates (s : IdSet) (l : List Ident) : Prop :=
  l.Pairwise (· < ·) ∧ ∀ u, u ∈ l ↔ u ∈ s

/-- A set's own list enumerates it. -/
theorem IdSet.enumerates_toList (s : IdSet) : s.Enumerates s.toList :=
  ⟨s.sorted, fun _ => Iff.rfl⟩

/-! ## The text of a payload -/

/-- The items of an array of identifiers: their decimal texts separated by commas. -/
theorem compactItems_idents (l : List Ident) :
    Json.compactItems (l.map Ident.toJson) = ",".intercalate (l.map Ident.render) := by
  induction l with
  | nil => rfl
  | cons x rest ih =>
    cases rest with
    | nil => rfl
    | cons y ys =>
      have hitems : Json.compactItems ((x :: y :: ys).map Ident.toJson) =
          x.render ++ "," ++ Json.compactItems ((y :: ys).map Ident.toJson) := by
        rw [List.map_cons, Json.compactItems]
        · rfl
        · exact List.cons_ne_nil _ _
      rw [hitems, ih]
      simp only [List.map_cons, String.intercalate_cons_cons]

/-- An array of identifiers, between brackets. -/
theorem compact_listJson (l : List Ident) :
    (Ident.listJson l).compact = "[" ++ ",".intercalate (l.map Ident.render) ++ "]" := by
  rw [Ident.listJson, Json.compact, compactItems_idents]

/-- The compact text of a payload: its three arrays under their keys, in the order confirmed,
added, removed, with no blank. -/
theorem FollowerPayload.toJson_compact (p : FollowerPayload) :
    p.toJson.compact =
      "\x7b\"old_followers\":[" ++ ",".intercalate (p.confirmed.map Ident.render) ++
        "],\"new_followers\":[" ++ ",".intercalate (p.added.map Ident.render) ++
        "],\"unfollowers\":[" ++ ",".intercalate (p.removed.map Ident.render) ++ "]\x7d" := by
  have hkeys : Json.quote "old_followers" = "\"old_followers\"" ∧
      Json.quote "new_followers" = "\"new_followers\"" ∧
      Json.quote "unfollowers" = "\"unfollowers\"" := by decide
  rw [FollowerPayload.toJson, Json.compact, Json.compactMembers, Json.compactMembers,
    Json.compactMembers, compact_listJson, compact_listJson, compact_listJson, hkeys.1, hkeys.2.1,
    hkeys.2.2]
  · simp only [String.append_assoc]
    rfl
  · exact List.cons_ne_nil _ _
  · exact List.cons_ne_nil _ _

/-! ## Through the store -/

namespace FollowerStore

/-- The text of a store's payload for a tender with a diff is that of the diff's payload. -/
theorem serialize_of_get? {s : FollowerStore} {t : Ident} {d : FollowerDiff}
    (h : s.get? t = some d) : s.serialize t = .ok d.payload.toJson.compact := by
  simp only [serialize, payload_of_get? h]
  rfl

/-- A tender without a diff has neither a payload nor its text. -/
theorem payload_serialize_of_get?_none {s : FollowerStore} {t : Ident} (h : s.get? t = none) :
    s.payload t = .error (.unknownTender t) ∧ s.serialize t = .error (.unknownTender t) := by
  have hp : s.payload t = .error (.unknownTender t) := by
    simp only [payload, require_eq, h]
    rfl
  refine ⟨hp, ?_⟩
  simp only [serialize, hp]
  rfl

/-- A payload that a store answers is the payload of the tender's diff. -/
theorem exists_of_payload_eq_ok {s : FollowerStore} {t : Ident} {p : FollowerPayload}
    (h : s.payload t = .ok p) : ∃ d, s.get? t = some d ∧ p = d.payload := by
  cases hd : s.get? t with
  | none =>
    rw [(payload_serialize_of_get?_none hd).1] at h
    cases h
  | some d =>
    rw [payload_of_get? hd] at h
    cases h
    exact ⟨d, rfl, rfl⟩

/-- The payload of a store the program built keeps the shape of its diffs: no added user is
confirmed, and every removed user is. -/
theorem Reachable.payload_canonical {s : FollowerStore} (hs : s.Reachable) {t : Ident}
    {p : FollowerPayload} (h : s.payload t = .ok p) :
    (∀ u ∈ p.added, u ∉ p.confirmed) ∧ (∀ u ∈ p.removed, u ∈ p.confirmed) := by
  obtain ⟨d, hd, rfl⟩ := exists_of_payload_eq_ok h
  have hcanon : d.Canonical := (hs.get?_reachable t d hd).canonical
  exact ⟨hcanon.added_not_confirmed, hcanon.removed_confirmed⟩

end FollowerStore

open FollowerStore in
/-- The body of a save. For a tender with a diff, the payload lists each of the diff's three
sets once each in strictly ascending order, and its text is exactly
`{"old_followers":[…],"new_followers":[…],"unfollowers":[…]}`, each array the decimal
identifiers of its list separated by commas, with no blank. For a tender without a diff both
the payload and its text refuse the tender by name. On a store the program built, no added
user of a payload is confirmed and every removed user is. -/
theorem serialize_text (s : FollowerStore) (t : Ident) :
    (match s.get? t with
      | some d => ∃ p : FollowerPayload, s.payload t = .ok p ∧
          d.confirmed.Enumerates p.confirmed ∧ d.added.Enumerates p.added ∧
          d.removed.Enumerates p.removed ∧
          s.serialize t = .ok ("\x7b\"old_followers\":[" ++
            ",".intercalate (p.confirmed.map Ident.render) ++ "],\"new_followers\":[" ++
            ",".intercalate (p.added.map Ident.render) ++ "],\"unfollowers\":[" ++
            ",".intercalate (p.removed.map Ident.render) ++ "]\x7d")
      | none => s.payload t = .error (.unknownTender t) ∧
          s.serialize t = .error (.unknownTender t)) ∧
    (s.Reachable → ∀ p, s.payload t = .ok p →
      (∀ u ∈ p.added, u ∉ p.confirmed) ∧ (∀ u ∈ p.removed, u ∈ p.confirmed)) := by
  refine ⟨?_, fun hs p hp => hs.payload_canonical hp⟩
  cases hd : s.get? t with
  | none => exact payload_serialize_of_get?_none hd
  | some d =>
    refine ⟨d.payload, payload_of_get? hd, d.confirmed.enumerates_toList,
      d.added.enumerates_toList, d.removed.enumerates_toList, ?_⟩
    rw [serialize_of_get? hd, FollowerPayload.toJson_compact]

open FollowerStore in
/-- The body of a save after a user is checked on a tender that was never opened. -/
theorem serialize_text_after_check :
    let one : Ident := ⟨1, by decide, by decide⟩
    let two : Ident := ⟨2, by decide, by decide⟩
    let s := (({} : FollowerStore).toggle one two true).2
    s.Reachable ∧
    (match s.get? one with
      | some d => ∃ p : FollowerPayload, s.payload one = .ok p ∧
          d.confirmed.Enumerates p.confirmed ∧ d.added.Enumerates p.added ∧
          d.removed.Enumerates p.removed ∧
          s.serialize one = .ok ("\x7b\"old_followers\":[" ++
            ",".intercalate (p.confirmed.map Ident.render) ++ "],\"new_followers\":[" ++
            ",".intercalate (p.added.map Ident.render) ++ "],\"unfollowers\":[" ++
            ",".intercalate (p.removed.map Ident.render) ++ "]\x7d")
      | none => s.payload one = .error (.unknownTender one) ∧
          s.serialize one = .error (.unknownTender one)) ∧
    (∀ p, s.payload one = .ok p →
      (∀ u ∈ p.added, u ∉ p.confirmed) ∧ (∀ u ∈ p.removed, u ∈ p.confirmed)) := by
  intro one two s
  have hs : s.Reachable := .toggle one two true .empty
  exact ⟨hs, (serialize_text s one).1, (serialize_text s one).2 hs⟩

end TenderClient
