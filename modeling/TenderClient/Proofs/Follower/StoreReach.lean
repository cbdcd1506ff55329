import TenderClient.Follower.Store
import TenderClient.Proofs.Follower.Canonical
/-!
# The diffs a store holds

Every store operation is read through the look-up `get?`: the writing operations replace
the diff of one tender by a diff operation applied to the diff it had, or to an empty one
when it had none (`get?_update`), and leave every other tender alone; a commit does so
only for a tender that has a diff; a discard removes one tender.

The stores a program can build (`FollowerStore.Reachable`) therefore hold only diffs it
could have built on their own (`Reachable.get?_reachable`), and every statement about
reachable diffs applies to the diffs of such a store.
-/

set_option autoImplicit false

namespace TenderClient

namespace FollowerDiff

/-- Marking the followers of a list one by one keeps a diff reachable. -/
theorem Reachable.foldl_markPresent {d : FollowerDiff} (hd : d.Reachable) (users : List UserRecord) :
    (users.foldl (fun acc u => acc.markPresent u.id) d).Reachable := by
  induction users generalizing d with
  | nil => exact hd
  | cons u rest ih => exact ih (.markPresent u.id hd)

end FollowerDiff

namespace FollowerStore

/-- The diff an operation on a tender starts from: its own, or a new empty one. -/
theorem initialized_fst (s : FollowerStore) (t : Ident) :
    (s.initialized t).1 = (s.get? t).getD FollowerDiff.empty := by
  unfold initialized
  cases s.get? t <;> rfl

/-- Creating a tender's diff touches that tender only, and keeps a diff it already had. -/
theorem get?_initialized (s : FollowerStore) (t x : Ident) :
    (s.initialized t).2.get? x =
      if x = t then some ((s.get? t).getD FollowerDiff.empty) else s.get? x := by
  unfold initialized
  cases h : s.get? t with
  | none => simp [get?_set]
  | some d =>
    simp only [Option.getD_some]
    split
    · next hx =>
      subst hx
      exact h
    · rfl

/-- A write through a diff operation changes the tender's diff, made empty first when it had
none, and no other tender. -/
theorem get?_update (s : FollowerStore) (t x : Ident) (f : FollowerDiff → FollowerDiff) :
    (s.update t f).get? x =
      if x = t then some (f ((s.get? t).getD FollowerDiff.empty)) else s.get? x := by
  rw [update, get?_set, initialized_fst]

/-- Seeding marks the listed followers present, in the order listed. -/
theorem seed_snd (s : FollowerStore) (t : Ident) (users : List UserRecord) :
    (s.seed t users).2 = s.update t fun d =>
      (users.filter (·.isFollower)).foldl (fun acc u => acc.markPresent u.id) d := rfl

/-- A toggle replaces the tender's diff by the toggled one, and answers whether that diff
has pending changes. -/
theorem toggle_eq (s : FollowerStore) (t u : Ident) (checked : Bool) :
    s.toggle t u checked =
      ((((s.get? t).getD FollowerDiff.empty).toggle u checked).hasPending,
        s.update t (·.toggle u checked)) := by
  simp [toggle, get?_update]

@[simp] theorem discard_snd (s : FollowerStore) (t : Ident) : (s.discard t).2 = s.erase t := rfl

/-- A commit of a tender with a diff succeeds, with the size of the committed followers. -/
theorem commit_of_get?_some {s : FollowerStore} {t : Ident} {d : FollowerDiff}
    (h : s.get? t = some d) : s.commit t = .ok (d.commit.confirmed.size, s.set t d.commit) := by
  simp [commit, require, h, Except.map]

/-- A commit of a tender without a diff fails and names the tender. -/
theorem commit_of_get?_none {s : FollowerStore} {t : Ident} (h : s.get? t = none) :
    s.commit t = .error (.unknownTender t) := by
  simp [commit, require, h, Except.map]

/-- A commit that succeeds found a diff and replaced it by its commit. -/
theorem exists_of_commit_eq_ok {s s' : FollowerStore} {t : Ident} {n : Nat}
    (h : s.commit t = .ok (n, s')) :
    ∃ d, s.get? t = some d ∧ n = d.commit.confirmed.size ∧ s' = s.set t d.commit := by
  cases hd : s.get? t with
  | none =>
    rw [commit_of_get?_none hd] at h
    cases h
  | some d =>
    rw [commit_of_get?_some hd] at h
    cases h
    exact ⟨d, rfl, rfl, rfl⟩

/-- The stores a program can build from an empty one by the store's operations, in any
order: creating a tender's diff, marking followers present one by one or from a listing,
toggling boxes, committing a tender and discarding one. -/
inductive Reachable : FollowerStore → Prop
  | empty : Reachable {}
  | initialized {s : FollowerStore} (t : Ident) : Reachable s → Reachable (s.initialized t).2
  | markPresent {s : FollowerStore} (t u : Ident) : Reachable s → Reachable (s.markPresent t u)
  | seed {s : FollowerStore} (t : Ident) (users : List UserRecord) :
      Reachable s → Reachable (s.seed t users).2
  | toggle {s : FollowerStore} (t u : Ident) (checked : Bool) :
      Reachable s → Reachable (s.toggle t u checked).2
  | commit {s s' : FollowerStore} {n : Nat} (t : Ident) :
      Reachable s → s.commit t = .ok (n, s') → Reachable s'
  | discard {s : FollowerStore} (t : Ident) : Reachable s → Reachable (s.discard t).2

/-- Updating one tender by an operation that keeps diffs reachable keeps every diff of the
store reachable; a tender without a diff starts from the empty one, which is reachable. -/
theorem get?_update_reachable {s : FollowerStore} {t : Ident} {f : FollowerDiff → FollowerDiff}
    (hs : ∀ x e, s.get? x = some e → e.Reachable)
    (hf : ∀ e : FollowerDiff, e.Reachable → (f e).Reachable) :
    ∀ x e, (s.update t f).get? x = some e → e.Reachable := by
  intro x e he
  rw [get?_update] at he
  split at he
  · cases he
    apply hf
    cases h : s.get? t with
    | none => exact .empty
    | some e => exact hs t e h
  · exact hs x e he

/-- Every diff a reachable store holds is a reachable diff. -/
theorem Reachable.get?_reachable {s : FollowerStore} (h : s.Reachable) :
    ∀ t d, s.get? t = some d → d.Reachable := by
  induction h with
  | empty =>
    intro t d hd
    cases hd
  | @initialized s t _ ih =>
    intro x e he
    rw [get?_initialized] at he
    split at he
    · cases he
      cases h : s.get? t with
      | none => exact .empty
      | some e => exact ih t e h
    · exact ih x e he
  | markPresent t u _ ih => exact get?_update_reachable ih fun e he => .markPresent u he
  | seed t users _ ih =>
    rw [seed_snd]
    exact get?_update_reachable ih fun e he => he.foldl_markPresent _
  | toggle t u checked _ ih =>
    rw [toggle_eq]
    exact get?_update_reachable ih fun e he => .toggle u checked he
  | commit t _ hc ih =>
    obtain ⟨d, hd, -, rfl⟩ := exists_of_commit_eq_ok hc
    intro x e he
    rw [get?_set] at he
    split at he
    · cases he
      exact .commit (ih t d hd)
    · exact ih x e he
  | discard t _ ih =>
    intro x e he
    rw [discard_snd, get?_erase] at he
    split at he
    · cases he
    · exact ih x e he

end FollowerStore

end TenderClient
