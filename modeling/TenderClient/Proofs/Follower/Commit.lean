import TenderClient.Proofs.Follower.StoreCalls
/-!
# Committing a tender's diff

A commit is made as a set would make it in place: the added users are moved into the
confirmed ones, then the removed users, taken out of the diff, are erased one by one. For
any three sets, whether or not the program could have built them, this is the declarative
fold (`FollowerDiff.commit_eq`): the confirmed followers become `(confirmed ∪ added) \
removed`, the followers once saved, and nothing is left pending. Asking a diff whether a
user follows once saved agrees with that set on any three sets too
(`isFollowing_agrees_with_effective`). So a commit keeps the
followers once saved (`effective_commit`), and committing twice is committing once
(`commit_commit`).

Through the store, committing a tender that has a diff cannot fail: it answers the number
of followers once saved, the tender's payload then lists them in ascending order with no
pending change, and a second commit gives the same answer and the same store. The main
statement is `commit_folds_pending`.
-/

set_option autoImplicit false

namespace TenderClient

namespace FollowerDiff

/-- Whether a user follows once the diff is saved, asked of the diff directly (removals
first), is asked of the followers once saved; those are the confirmed and added users that
are not removed. Both hold of any three sets, whether or not a run builds them. -/
theorem isFollowing_agrees_with_effective (d : FollowerDiff) :
    (∀ u, d.isFollowing u = d.effective.contains u) ∧
    (∀ v, v ∈ d.effective ↔ (v ∈ d.confirmed ∨ v ∈ d.added) ∧ v ∉ d.removed) := by
  refine ⟨fun u => Bool.eq_iff_iff.mpr ?_, mem_effective d⟩
  rw [isFollowing_iff, IdSet.contains_iff]

/-- A commit is the diff whose confirmed followers are the followers once saved, with
nothing pending. -/
theorem commit_eq (d : FollowerDiff) : d.commit = { confirmed := d.effective } := by
  have hconfirmed : d.commit.confirmed = d.effective := IdSet.ext (mem_commit_confirmed d)
  -- the pending sets of a commit are empty by construction, so only the confirmed set moves
  calc d.commit = { confirmed := d.commit.confirmed } := rfl
    _ = { confirmed := d.effective } := by rw [hconfirmed]

/-- Committing keeps the followers once saved. -/
theorem effective_commit (d : FollowerDiff) : d.commit.effective = d.effective :=
  IdSet.ext fun u => by
    rw [mem_effective, commit_eq]
    simp

/-- A second commit changes nothing. -/
theorem commit_commit (d : FollowerDiff) : d.commit.commit = d.commit := by
  rw [commit_eq d.commit, effective_commit, ← commit_eq]

end FollowerDiff

namespace FollowerStore

/-- Writing a tender twice keeps the second write. -/
theorem set_set (s : FollowerStore) (t : Ident) (d e : FollowerDiff) :
    (s.set t d).set t e = s.set t e :=
  ext fun x => by
    rw [get?_set, get?_set, get?_set]
    split <;> rfl

/-- The payload of a tender with a diff is the diff's payload. -/
theorem payload_of_get? {s : FollowerStore} {t : Ident} {d : FollowerDiff}
    (h : s.get? t = some d) : s.payload t = .ok d.payload := by
  simp only [payload, require_eq, h]
  rfl

end FollowerStore

open FollowerDiff FollowerStore in
/-- Committing a tender that has a diff, whatever its three sets hold, succeeds with the
number of followers once saved. The tender's diff then confirms exactly the confirmed and
added users less the removed ones, which are the followers once saved, with nothing
pending; its payload lists them in ascending order; and a second commit answers the same
number and changes nothing. -/
theorem commit_folds_pending (s : FollowerStore) (t : Ident) (d : FollowerDiff)
    (hd : s.get? t = some d) :
    ∃ s' d', s.commit t = .ok (d.effective.size, s') ∧ s'.get? t = some d' ∧
      (∀ u, u ∈ d'.confirmed ↔ (u ∈ d.confirmed ∨ u ∈ d.added) ∧ u ∉ d.removed) ∧
      d'.confirmed = d.effective ∧ d'.added = IdSet.empty ∧ d'.removed = IdSet.empty ∧
      d'.effective = d.effective ∧
      s'.payload t = .ok ⟨d.effective.toList, [], []⟩ ∧
      s'.commit t = .ok (d.effective.size, s') := by
  have hget : (s.set t d.commit).get? t = some d.commit := by rw [get?_set, if_pos rfl]
  have hsize : d.commit.confirmed.size = d.effective.size := by rw [commit_eq]
  refine ⟨s.set t d.commit, d.commit, ?_, hget, fun u => ?_, by rw [commit_eq], rfl, rfl,
    effective_commit d, ?_, ?_⟩
  · rw [commit_of_get?_some hd, hsize]
  · rw [mem_commit_confirmed, mem_effective]
  · rw [payload_of_get? hget, commit_eq]
    rfl
  · rw [commit_of_get?_some hget, commit_commit, hsize, set_set]

open FollowerDiff FollowerStore in
/-- A commit folds a diff that no run builds, with a user both confirmed and added and a
removed user who is not confirmed. -/
theorem commit_folds_pending_overlapping :
    let one : Ident := ⟨1, by decide, by decide⟩
    let two : Ident := ⟨2, by decide, by decide⟩
    let three : Ident := ⟨3, by decide, by decide⟩
    let d : FollowerDiff :=
      { confirmed := IdSet.ofList [one, two], added := IdSet.ofList [two, three],
        removed := IdSet.ofList [one, three] }
    let s := ({} : FollowerStore).set one d
    s.get? one = some d ∧
    ∃ s' d', s.commit one = .ok (d.effective.size, s') ∧ s'.get? one = some d' ∧
      (∀ u, u ∈ d'.confirmed ↔ (u ∈ d.confirmed ∨ u ∈ d.added) ∧ u ∉ d.removed) ∧
      d'.confirmed = d.effective ∧ d'.added = IdSet.empty ∧ d'.removed = IdSet.empty ∧
      d'.effective = d.effective ∧
      s'.payload one = .ok ⟨d.effective.toList, [], []⟩ ∧
      s'.commit one = .ok (d.effective.size, s') := by
  intro one two three d s
  have hd : s.get? one = some d := by rw [get?_set, if_pos rfl]
  exact ⟨hd, commit_folds_pending s one d hd⟩

end TenderClient
