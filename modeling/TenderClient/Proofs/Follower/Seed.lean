import TenderClient.Proofs.Follower.StoreReach
/-!
# Seeding a tender from a listing

A listing of users comes with a flag on each record that says whether the user follows the
tender. Seeding takes the records that follow, in the order listed, and marks each one
present in the tender's diff (created empty when the tender has none): the user joins the
confirmed followers and is no longer pending as added. A pending removal is left alone, so
a user the server still lists but who was unchecked here stays pending removal.

The answer counts the follower records, not the users: a user listed twice is counted twice,
though marked present once.

The main statement is `seed_confirms_listed`: the count, the tender's diff afterwards in
set form (`foldl_markPresent_eq_union`), and every other tender as it was.
-/

set_option autoImplicit false

namespace TenderClient

namespace FollowerDiff

/-- Marking users present one by one inserts them into the confirmed set and takes them out
of the pending additions. -/
theorem foldl_markPresent (d : FollowerDiff) (users : List UserRecord) :
    users.foldl (fun acc u => acc.markPresent u.id) d =
      { confirmed := (users.map (·.id)).foldl (fun acc i => acc.insert i) d.confirmed,
        added := (users.map (·.id)).foldl (fun acc i => acc.erase i) d.added,
        removed := d.removed } := by
  induction users generalizing d with
  | nil => rfl
  | cons u rest ih =>
    rw [List.foldl_cons, ih]
    rfl

/-- Two diffs with the same members in each of their three sets are equal. -/
theorem ext_mem {d e : FollowerDiff} (hc : ∀ x, x ∈ d.confirmed ↔ x ∈ e.confirmed)
    (ha : ∀ x, x ∈ d.added ↔ x ∈ e.added) (hr : ∀ x, x ∈ d.removed ↔ x ∈ e.removed) :
    d = e := by
  obtain ⟨c, a, r⟩ := d
  obtain ⟨c', a', r'⟩ := e
  have h1 : c = c' := IdSet.ext hc
  have h2 : a = a' := IdSet.ext ha
  have h3 : r = r' := IdSet.ext hr
  subst h1 h2 h3
  rfl

/-- Marking users present one by one, as sets: the marked users join the confirmed ones and
leave the pending additions, in whatever order and however often they come. -/
theorem foldl_markPresent_eq_union (d : FollowerDiff) (users : List UserRecord) :
    users.foldl (fun acc u => acc.markPresent u.id) d =
      { confirmed := d.confirmed.union (IdSet.ofList (users.map (·.id))),
        added := d.added.diff (IdSet.ofList (users.map (·.id))),
        removed := d.removed } := by
  rw [foldl_markPresent]
  apply ext_mem
  · intro x
    rw [IdSet.mem_foldl_insert, IdSet.mem_union, IdSet.mem_ofList]
  · intro x
    rw [IdSet.mem_foldl_erase, IdSet.mem_diff, IdSet.mem_ofList]
  · intro x
    rfl

end FollowerDiff

namespace FollowerStore

/-- Seeding a tender from a listing. Its answer is the number of records that say they
follow, each duplicate counted. With `d` the tender's diff before (empty when it had none)
and `F` the users the listing gives as followers, the tender's diff afterwards confirms
`d`'s followers and `F`, keeps pending as added only those of `d`'s not in `F`, and keeps
`d`'s pending removals, a listed follower among them. Every other tender keeps its diff, and
a tender that had no diff (fresh, or discarded) has nothing pending afterwards. -/
theorem seed_confirms_listed (s : FollowerStore) (t : Ident) (users : List UserRecord) :
    let d := (s.get? t).getD FollowerDiff.empty
    let F := IdSet.ofList ((users.filter (·.isFollower)).map (·.id))
    (s.seed t users).1 = users.countP (·.isFollower) ∧
    (s.seed t users).2.get? t =
      some { confirmed := d.confirmed.union F, added := d.added.diff F, removed := d.removed } ∧
    (∀ x, x ≠ t → (s.seed t users).2.get? x = s.get? x) ∧
    (s.get? t = none → (s.seed t users).2.hasPending t = false) := by
  intro d F
  have hentry : (s.seed t users).2.get? t =
      some { confirmed := d.confirmed.union F, added := d.added.diff F, removed := d.removed } := by
    rw [seed_snd, get?_update, if_pos rfl, FollowerDiff.foldl_markPresent_eq_union]
  refine ⟨(List.countP_eq_length_filter ..).symm, hentry, ?_, ?_⟩
  · intro x hx
    rw [seed_snd, get?_update, if_neg hx]
  · -- a tender without a diff starts from the empty one: nothing added, nothing removed
    intro hnone
    have hd : d = FollowerDiff.empty := by
      show (s.get? t).getD FollowerDiff.empty = FollowerDiff.empty
      rw [hnone, Option.getD_none]
    rw [hasPending, hentry, Option.any_some, FollowerDiff.hasPending_eq_false_iff, hd]
    constructor
    · intro u
      simp [FollowerDiff.empty]
    · intro u
      simp [FollowerDiff.empty]

/-- Seeding a fresh tender from a listing that names one user twice as a follower: both
records are counted, and nothing is pending. -/
theorem seed_confirms_listed_twice :
    let u : Ident := ⟨7, by decide, by decide⟩
    let t : Ident := ⟨1, by decide, by decide⟩
    let users : List UserRecord :=
      [⟨u, "ann", none, true⟩, ⟨u, "ann", none, true⟩,
        ⟨⟨8, by decide, by decide⟩, "bo", none, false⟩]
    ({} : FollowerStore).get? t = none ∧ (({} : FollowerStore).seed t users).1 = 2 ∧
      (({} : FollowerStore).seed t users).2.hasPending t = false := by
  intro u t users
  have h := seed_confirms_listed {} t users
  have hnone : ({} : FollowerStore).get? t = none := rfl
  exact ⟨hnone, h.1.trans (by decide), h.2.2.2 hnone⟩

end FollowerStore

end TenderClient
