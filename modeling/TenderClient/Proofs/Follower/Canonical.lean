import Mathlib.Data.Finset.Card
import Mathlib.Data.Finset.SymmDiff
import TenderClient.Follower.Diff
/-!
# The canonical form of a follower diff

A diff keeps the confirmed followers apart from the pending changes. The program only ever
builds diffs of one shape (`Canonical`): a user pending addition is not confirmed, and a
user pending removal is. Every diff reachable from the empty one by marking followers
present, toggling boxes and committing has that shape (`Reachable.canonical`).

On a canonical diff the pending sets carry no information beyond the confirmed set and
the set of followers once saved: the additions are `effective \ confirmed` and the
removals `confirmed \ effective` (`Canonical.added_eq`, `Canonical.removed_eq`). So the
number of pending changes is the size of the symmetric difference of the two sets, a
diff has nothing pending exactly when saving it changes nothing, and two canonical diffs
with the same confirmed and effective sets are equal (`Canonical.eq_of_confirmed_effective`).
The main statement is `pending_eq_effective_symmDiff`.
-/

set_option autoImplicit false

namespace TenderClient

namespace IdSet

/-- The list of a set repeats no member. -/
theorem nodup (s : IdSet) : s.toList.Nodup :=
  s.sorted.imp fun {a b} hab heq => by
    subst heq
    exact Nat.lt_irrefl _ hab

instance (x : Ident) (s : IdSet) : Decidable (x ∈ s) :=
  inferInstanceAs (Decidable (x ∈ s.toList))

/-- Two sets with the same members are equal: the increasing list is a canonical form. -/
theorem ext {s t : IdSet} (h : ∀ x, x ∈ s ↔ x ∈ t) : s = t := by
  have hperm : s.toList.Perm t.toList := (List.perm_ext_iff_of_nodup s.nodup t.nodup).mpr h
  have hlist : s.toList = t.toList :=
    hperm.eq_of_pairwise (fun _ _ _ _ hab hba => absurd (lt_trans' hab hba) (Nat.lt_irrefl _))
      s.sorted t.sorted
  cases s
  cases t
  simp only at hlist
  subst hlist
  rfl

/-- The members as a finite set. -/
def toFinset (s : IdSet) : Finset Ident := s.toList.toFinset

@[simp] theorem mem_toFinset (s : IdSet) (x : Ident) : x ∈ s.toFinset ↔ x ∈ s :=
  List.mem_toFinset

/-- The size of a set is the number of its members. -/
theorem size_eq_card (s : IdSet) : s.size = s.toFinset.card :=
  (List.toFinset_card_of_nodup s.nodup).symm

theorem toFinset_diff (s t : IdSet) : (s.diff t).toFinset = s.toFinset \ t.toFinset := by
  ext x
  simp

/-- A set of size zero has no member. -/
theorem size_eq_zero_iff (s : IdSet) : s.size = 0 ↔ ∀ x, x ∉ s := by
  simp only [size, List.length_eq_zero_iff, mem_iff]
  exact List.eq_nil_iff_forall_not_mem

end IdSet

namespace FollowerDiff

/-- The shape of every diff the program builds: a user pending addition is not a confirmed
follower, and a user pending removal is one. -/
structure Canonical (d : FollowerDiff) : Prop where
  added_not_confirmed : ∀ u ∈ d.added, u ∉ d.confirmed
  removed_confirmed : ∀ u ∈ d.removed, u ∈ d.confirmed

/-- No user is pending both ways in a canonical diff. -/
theorem Canonical.not_removed_of_added {d : FollowerDiff} (hd : d.Canonical) {u : Ident}
    (hu : u ∈ d.added) : u ∉ d.removed :=
  fun hr => hd.added_not_confirmed u hu (hd.removed_confirmed u hr)

/-! ## What each operation does -/

@[simp] theorem markPresent_confirmed (d : FollowerDiff) (u : Ident) :
    (d.markPresent u).confirmed = d.confirmed.insert u := rfl
@[simp] theorem markPresent_added (d : FollowerDiff) (u : Ident) :
    (d.markPresent u).added = d.added.erase u := rfl
@[simp] theorem markPresent_removed (d : FollowerDiff) (u : Ident) :
    (d.markPresent u).removed = d.removed := rfl

/-- Checking a user who is not confirmed adds them. -/
theorem toggle_check_new {d : FollowerDiff} {u : Ident} (h : u ∉ d.confirmed) :
    d.toggle u true = { d with added := d.added.insert u } := by
  simp [toggle, (IdSet.contains_eq_false_iff _ _).mpr h]

/-- Checking a confirmed user cancels their removal. -/
theorem toggle_check_known {d : FollowerDiff} {u : Ident} (h : u ∈ d.confirmed) :
    d.toggle u true = { d with removed := d.removed.erase u } := by
  simp [toggle, (IdSet.contains_iff _ _).mpr h]

/-- Unchecking a confirmed user removes them. -/
theorem toggle_uncheck_known {d : FollowerDiff} {u : Ident} (h : u ∈ d.confirmed) :
    d.toggle u false = { d with removed := d.removed.insert u } := by
  simp [toggle, (IdSet.contains_iff _ _).mpr h]

/-- Unchecking a user who is not confirmed cancels their addition. -/
theorem toggle_uncheck_new {d : FollowerDiff} {u : Ident} (h : u ∉ d.confirmed) :
    d.toggle u false = { d with added := d.added.erase u } := by
  simp [toggle, (IdSet.contains_eq_false_iff _ _).mpr h]

/-- A toggle never touches the confirmed followers. -/
@[simp] theorem toggle_confirmed (d : FollowerDiff) (u : Ident) (checked : Bool) :
    (d.toggle u checked).confirmed = d.confirmed := by
  by_cases h : u ∈ d.confirmed <;> cases checked
  · rw [toggle_uncheck_known h]
  · rw [toggle_check_known h]
  · rw [toggle_uncheck_new h]
  · rw [toggle_check_new h]

/-- Who follows once saved, as a decision on the three sets. -/
theorem isFollowing_eq_decide (d : FollowerDiff) (v : Ident) :
    d.isFollowing v = decide ((v ∈ d.confirmed ∨ v ∈ d.added) ∧ v ∉ d.removed) := by
  rw [Bool.eq_iff_iff, isFollowing_iff, mem_effective, decide_eq_true_iff]

/-- The user a toggle names follows, once saved, exactly when their box is checked. -/
theorem Canonical.isFollowing_toggle_self {d : FollowerDiff} (hd : d.Canonical) (u : Ident)
    (checked : Bool) : (d.toggle u checked).isFollowing u = checked := by
  -- a user who is not confirmed is not pending removal, so checking them is enough
  have hnew : u ∉ d.confirmed → u ∉ d.removed := fun hu hr => hu (hd.removed_confirmed u hr)
  by_cases hu : u ∈ d.confirmed <;> cases checked
  · rw [toggle_uncheck_known hu, isFollowing_eq_decide]
    simp
  · rw [toggle_check_known hu, isFollowing_eq_decide]
    simp [hu]
  · rw [toggle_uncheck_new hu, isFollowing_eq_decide]
    simp [hu]
  · rw [toggle_check_new hu, isFollowing_eq_decide]
    simp [hnew hu]

/-- A toggle leaves every other user as they were, on any diff. -/
theorem isFollowing_toggle_of_ne (d : FollowerDiff) {u v : Ident} (checked : Bool) (h : v ≠ u) :
    (d.toggle u checked).isFollowing v = d.isFollowing v := by
  by_cases hu : u ∈ d.confirmed <;> cases checked
  · rw [toggle_uncheck_known hu, isFollowing_eq_decide, isFollowing_eq_decide]
    simp [h]
  · rw [toggle_check_known hu, isFollowing_eq_decide, isFollowing_eq_decide]
    simp [h]
  · rw [toggle_uncheck_new hu, isFollowing_eq_decide, isFollowing_eq_decide]
    simp [h]
  · rw [toggle_check_new hu, isFollowing_eq_decide, isFollowing_eq_decide]
    simp [h]

/-- On a canonical diff, a toggle sets the named user to the box and nobody else moves. -/
theorem Canonical.isFollowing_toggle {d : FollowerDiff} (hd : d.Canonical) (u v : Ident)
    (checked : Bool) :
    (d.toggle u checked).isFollowing v = if v = u then checked else d.isFollowing v := by
  split
  · next h =>
    subst h
    exact hd.isFollowing_toggle_self v checked
  · next h => exact d.isFollowing_toggle_of_ne checked h

/-! ## Every operation keeps the canonical form -/

/-- The diff a tender starts with has nothing pending. -/
theorem canonical_empty : empty.Canonical where
  added_not_confirmed u hu := absurd hu (IdSet.not_mem_empty u)
  removed_confirmed u hu := absurd hu (IdSet.not_mem_empty u)

/-- A user the server reports as following is confirmed and no longer pending addition; a
pending removal stays confirmed. -/
theorem Canonical.markPresent {d : FollowerDiff} (hd : d.Canonical) (u : Ident) :
    (d.markPresent u).Canonical where
  added_not_confirmed x hx := by
    rw [markPresent_added, IdSet.mem_erase] at hx
    rw [markPresent_confirmed, IdSet.mem_insert, not_or]
    exact ⟨hx.1, hd.added_not_confirmed x hx.2⟩
  removed_confirmed x hx := by
    rw [markPresent_removed] at hx
    rw [markPresent_confirmed, IdSet.mem_insert]
    exact Or.inr (hd.removed_confirmed x hx)

/-- Each of the four branches of a toggle keeps the canonical form. -/
theorem Canonical.toggle {d : FollowerDiff} (hd : d.Canonical) (u : Ident) (checked : Bool) :
    (d.toggle u checked).Canonical := by
  by_cases hu : u ∈ d.confirmed <;> cases checked
  · -- unchecking a confirmed user: the new removal is confirmed
    rw [toggle_uncheck_known hu]
    refine ⟨hd.added_not_confirmed, fun x hx => ?_⟩
    rcases (IdSet.mem_insert _ _ _).mp hx with rfl | hx
    · exact hu
    · exact hd.removed_confirmed x hx
  · rw [toggle_check_known hu]
    exact ⟨hd.added_not_confirmed,
      fun x hx => hd.removed_confirmed x ((IdSet.mem_erase _ _ _).mp hx).2⟩
  · rw [toggle_uncheck_new hu]
    exact ⟨fun x hx => hd.added_not_confirmed x ((IdSet.mem_erase _ _ _).mp hx).2,
      hd.removed_confirmed⟩
  · -- checking a user who is not confirmed: the new addition is not confirmed
    rw [toggle_check_new hu]
    refine ⟨fun x hx => ?_, hd.removed_confirmed⟩
    rcases (IdSet.mem_insert _ _ _).mp hx with rfl | hx
    · exact hu
    · exact hd.added_not_confirmed x hx

/-- A commit leaves nothing pending, whatever the diff was. -/
theorem commit_canonical (d : FollowerDiff) : d.commit.Canonical where
  added_not_confirmed u hu := absurd hu (IdSet.not_mem_empty u)
  removed_confirmed u hu := absurd hu (IdSet.not_mem_empty u)

/-- The diffs a program can build from an empty one by marking followers present,
toggling boxes and committing, in any order. -/
inductive Reachable : FollowerDiff → Prop
  | empty : Reachable FollowerDiff.empty
  | markPresent {d : FollowerDiff} (u : Ident) : Reachable d → Reachable (d.markPresent u)
  | toggle {d : FollowerDiff} (u : Ident) (checked : Bool) :
      Reachable d → Reachable (d.toggle u checked)
  | commit {d : FollowerDiff} : Reachable d → Reachable d.commit

/-- Every diff the program can build is canonical. -/
theorem Reachable.canonical {d : FollowerDiff} (h : d.Reachable) : d.Canonical := by
  induction h with
  | empty => exact canonical_empty
  | markPresent u _ ih => exact ih.markPresent u
  | toggle u checked _ ih => exact ih.toggle u checked
  | commit _ => exact commit_canonical _

/-! ## The pending sets of a canonical diff -/

/-- A user is pending addition exactly when they follow once saved and are not confirmed. -/
theorem Canonical.mem_added_iff {d : FollowerDiff} (hd : d.Canonical) (u : Ident) :
    u ∈ d.added ↔ u ∈ d.effective ∧ u ∉ d.confirmed := by
  rw [mem_effective]
  constructor
  · intro hu
    exact ⟨⟨Or.inr hu, hd.not_removed_of_added hu⟩, hd.added_not_confirmed u hu⟩
  · rintro ⟨⟨hc | ha, -⟩, hnc⟩
    · exact absurd hc hnc
    · exact ha

/-- A user is pending removal exactly when they are confirmed and do not follow once saved. -/
theorem Canonical.mem_removed_iff {d : FollowerDiff} (hd : d.Canonical) (u : Ident) :
    u ∈ d.removed ↔ u ∈ d.confirmed ∧ u ∉ d.effective := by
  rw [mem_effective]
  constructor
  · intro hu
    exact ⟨hd.removed_confirmed u hu, fun h => h.2 hu⟩
  · rintro ⟨hc, hne⟩
    by_contra hr
    exact hne ⟨Or.inl hc, hr⟩

theorem Canonical.added_eq {d : FollowerDiff} (hd : d.Canonical) :
    d.added = d.effective.diff d.confirmed :=
  IdSet.ext fun u => by rw [hd.mem_added_iff, IdSet.mem_diff]

theorem Canonical.removed_eq {d : FollowerDiff} (hd : d.Canonical) :
    d.removed = d.confirmed.diff d.effective :=
  IdSet.ext fun u => by rw [hd.mem_removed_iff, IdSet.mem_diff]

/-- The pending changes of a canonical diff are as many as the users on whom the confirmed
followers and the followers once saved disagree. -/
theorem Canonical.pendingCount_eq_card {d : FollowerDiff} (hd : d.Canonical) :
    d.pendingCount = (symmDiff d.effective.toFinset d.confirmed.toFinset).card := by
  have hdisj : Disjoint (d.effective.toFinset \ d.confirmed.toFinset)
      (d.confirmed.toFinset \ d.effective.toFinset) := disjoint_sdiff_sdiff
  calc d.pendingCount
      = (d.effective.diff d.confirmed).size + (d.confirmed.diff d.effective).size := by
        rw [pendingCount, ← hd.added_eq, ← hd.removed_eq]
    _ = (d.effective.toFinset \ d.confirmed.toFinset).card +
          (d.confirmed.toFinset \ d.effective.toFinset).card := by
        rw [IdSet.size_eq_card, IdSet.size_eq_card, IdSet.toFinset_diff, IdSet.toFinset_diff]
    _ = (symmDiff d.effective.toFinset d.confirmed.toFinset).card := by
        rw [Finset.symmDiff_def, Finset.card_union_of_disjoint hdisj]

/-- Nothing is pending exactly when both pending sets are empty. -/
theorem hasPending_eq_false_iff (d : FollowerDiff) :
    d.hasPending = false ↔ (∀ u, u ∉ d.added) ∧ ∀ u, u ∉ d.removed := by
  simp only [hasPending, pendingCount, decide_eq_false_iff_not, gt_iff_lt, Nat.not_lt,
    Nat.le_zero, Nat.add_eq_zero_iff, IdSet.size_eq_zero_iff]

/-- A canonical diff has nothing pending exactly when saving it changes no follower. -/
theorem Canonical.hasPending_eq_false_iff {d : FollowerDiff} (hd : d.Canonical) :
    d.hasPending = false ↔ d.effective = d.confirmed := by
  rw [FollowerDiff.hasPending_eq_false_iff]
  constructor
  · rintro ⟨hadd, hrem⟩
    apply IdSet.ext
    intro u
    rw [mem_effective]
    constructor
    · rintro ⟨hc | ha, -⟩
      · exact hc
      · exact absurd ha (hadd u)
    · intro hc
      exact ⟨Or.inl hc, hrem u⟩
  · intro heq
    constructor
    · intro u hu
      have h := (hd.mem_added_iff u).mp hu
      rw [heq] at h
      exact h.2 h.1
    · intro u hu
      have h := (hd.mem_removed_iff u).mp hu
      rw [heq] at h
      exact h.2 h.1

/-- A canonical diff is determined by its confirmed followers and its followers once saved. -/
theorem Canonical.eq_of_confirmed_effective {d e : FollowerDiff} (hd : d.Canonical)
    (he : e.Canonical) (hc : d.confirmed = e.confirmed) (hf : d.effective = e.effective) :
    d = e := by
  have ha : d.added = e.added := by rw [hd.added_eq, he.added_eq, hc, hf]
  have hr : d.removed = e.removed := by rw [hd.removed_eq, he.removed_eq, hc, hf]
  cases d
  cases e
  simp only at hc ha hr
  rw [hc, ha, hr]

/-- On every diff the program can build, the pending additions are the followers once saved
who are not confirmed, the pending removals are the confirmed followers who will not be,
their number is the size of the symmetric difference of the two sets, and nothing is
pending exactly when the two sets are equal. -/
theorem pending_eq_effective_symmDiff (d : FollowerDiff) (hd : d.Reachable) :
    d.added = d.effective.diff d.confirmed ∧
    d.removed = d.confirmed.diff d.effective ∧
    d.pendingCount = (symmDiff d.effective.toFinset d.confirmed.toFinset).card ∧
    (d.hasPending = false ↔ d.effective = d.confirmed) := by
  have hc := hd.canonical
  exact ⟨hc.added_eq, hc.removed_eq, hc.pendingCount_eq_card, hc.hasPending_eq_false_iff⟩

/-- User 1 confirmed then unchecked, user 2 checked: one change each way. -/
theorem pending_eq_effective_symmDiff_unchecked_and_checked :
    let d := ((empty.markPresent ⟨1, by decide, by decide⟩).toggle ⟨1, by decide, by decide⟩
      false).toggle ⟨2, by decide, by decide⟩ true
    d.Reachable ∧
      (d.added = d.effective.diff d.confirmed ∧
        d.removed = d.confirmed.diff d.effective ∧
        d.pendingCount = (symmDiff d.effective.toFinset d.confirmed.toFinset).card ∧
        (d.hasPending = false ↔ d.effective = d.confirmed)) := by
  intro d
  have hd : d.Reachable := .toggle _ _ (.toggle _ _ (.markPresent _ .empty))
  exact ⟨hd, pending_eq_effective_symmDiff d hd⟩

end FollowerDiff

end TenderClient
