import TenderClient.Proofs.Follower.StoreReach
/-!
# Checkbox changes: the last one wins

A run of checkbox changes (`toggleAll`) applied to a diff the program built never moves the
confirmed followers, and afterwards each user follows, once saved, as the last change that
names them says; a user no change names follows as before (`Canonical.isFollowing_toggleAll`).
The branches of a toggle act on different sets depending on whether the user is confirmed,
and only the canonical form makes them agree on that rule.

Since a canonical diff is fixed by its confirmed followers and its followers once saved
(`Canonical.eq_of_isFollowing`), the order of changes to different users does not matter,
a repeated change is one change, and a change undone restores the diff exactly. The main
statement is `toggleAll_last_change_wins`.
-/

set_option autoImplicit false

namespace TenderClient

namespace FollowerDiff

/-- Applies checkbox changes, each a user and whether their box is checked, in order. -/
def toggleAll (d : FollowerDiff) (changes : List (Ident × Bool)) : FollowerDiff :=
  changes.foldl (fun acc c => acc.toggle c.1 c.2) d

/-- Whether the last change that names a user checks their box; `none` when no change
names them. -/
def lastChange (changes : List (Ident × Bool)) (v : Ident) : Option Bool :=
  (changes.reverse.find? fun c => c.1 == v).map (·.2)

@[simp] theorem toggleAll_cons (d : FollowerDiff) (c : Ident × Bool)
    (changes : List (Ident × Bool)) :
    d.toggleAll (c :: changes) = (d.toggle c.1 c.2).toggleAll changes := rfl

/-- A later change of a user hides an earlier one. -/
theorem lastChange_cons (c : Ident × Bool) (changes : List (Ident × Bool)) (v : Ident) :
    lastChange (c :: changes) v =
      match lastChange changes v with
      | some b => some b
      | none => if c.1 = v then some c.2 else none := by
  simp only [lastChange, List.reverse_cons, List.find?_append]
  cases changes.reverse.find? (fun c => c.1 == v) with
  | none =>
    by_cases h : c.1 = v <;> simp [h]
  | some c' => rfl

example : lastChange [(⟨1, by decide, by decide⟩, true), (⟨2, by decide, by decide⟩, false),
    (⟨1, by decide, by decide⟩, false)] ⟨1, by decide, by decide⟩ = some false := by
  decide

/-- No run of changes moves the confirmed followers. -/
theorem toggleAll_confirmed (d : FollowerDiff) (changes : List (Ident × Bool)) :
    (d.toggleAll changes).confirmed = d.confirmed := by
  induction changes generalizing d with
  | nil => rfl
  | cons c rest ih => rw [toggleAll_cons, ih, toggle_confirmed]

/-- A run of changes from a diff the program built gives a diff it can build. -/
theorem Reachable.toggleAll {d : FollowerDiff} (hd : d.Reachable)
    (changes : List (Ident × Bool)) : (d.toggleAll changes).Reachable := by
  induction changes generalizing d with
  | nil => exact hd
  | cons c rest ih => exact ih (.toggle c.1 c.2 hd)

/-- On a canonical diff, a run of changes makes each user follow as their last change says. -/
theorem Canonical.isFollowing_toggleAll {d : FollowerDiff} (hd : d.Canonical)
    (changes : List (Ident × Bool)) (v : Ident) :
    (d.toggleAll changes).isFollowing v = (lastChange changes v).getD (d.isFollowing v) := by
  induction changes generalizing d with
  | nil => rfl
  | cons c rest ih =>
    -- the head change acts first; the rest of the run sees the canonical diff it leaves
    rw [toggleAll_cons, ih (hd.toggle c.1 c.2), lastChange_cons, hd.isFollowing_toggle]
    cases lastChange rest v with
    | some b => rfl
    | none =>
      by_cases h : c.1 = v
      · subst h
        simp
      · have h' : v ≠ c.1 := Ne.symm h
        simp [h, h']

/-- Diffs that agree on who follows once saved have the same followers once saved. -/
theorem effective_eq_of_isFollowing {d e : FollowerDiff}
    (h : ∀ v, d.isFollowing v = e.isFollowing v) : d.effective = e.effective := by
  apply IdSet.ext
  intro v
  rw [← isFollowing_iff, ← isFollowing_iff, h v]

/-- Canonical diffs with the same confirmed followers that agree on who follows once saved
are equal. -/
theorem Canonical.eq_of_isFollowing {d e : FollowerDiff} (hd : d.Canonical) (he : e.Canonical)
    (hc : d.confirmed = e.confirmed) (hf : ∀ v, d.isFollowing v = e.isFollowing v) : d = e :=
  hd.eq_of_confirmed_effective he hc (effective_eq_of_isFollowing hf)

/-- Changes of two different users commute. -/
theorem Canonical.toggle_comm {d : FollowerDiff} (hd : d.Canonical) {u v : Ident}
    (cu cv : Bool) (huv : u ≠ v) :
    (d.toggle u cu).toggle v cv = (d.toggle v cv).toggle u cu := by
  have hl := (hd.toggle u cu).toggle v cv
  have hr := (hd.toggle v cv).toggle u cu
  apply hl.eq_of_isFollowing hr (by simp only [toggle_confirmed])
  intro w
  rw [(hd.toggle u cu).isFollowing_toggle, hd.isFollowing_toggle,
    (hd.toggle v cv).isFollowing_toggle, hd.isFollowing_toggle]
  by_cases hwu : w = u
  · subst hwu
    simp [huv]
  · simp [hwu]

/-- Making the same change twice is making it once. -/
theorem Canonical.toggle_toggle_self {d : FollowerDiff} (hd : d.Canonical) (u : Ident)
    (checked : Bool) : (d.toggle u checked).toggle u checked = d.toggle u checked := by
  have hl := (hd.toggle u checked).toggle u checked
  apply hl.eq_of_isFollowing (hd.toggle u checked) (by simp only [toggle_confirmed])
  intro w
  rw [(hd.toggle u checked).isFollowing_toggle, hd.isFollowing_toggle]
  by_cases hwu : w = u <;> simp [hwu]

/-- Setting a box back to what it showed undoes the change exactly. -/
theorem Canonical.toggle_restore {d : FollowerDiff} (hd : d.Canonical) (u : Ident)
    (checked : Bool) : (d.toggle u checked).toggle u (d.isFollowing u) = d := by
  have hl := (hd.toggle u checked).toggle u (d.isFollowing u)
  apply hl.eq_of_isFollowing hd (by simp only [toggle_confirmed])
  intro w
  rw [(hd.toggle u checked).isFollowing_toggle, hd.isFollowing_toggle]
  by_cases hwu : w = u
  · subst hwu
    simp
  · simp [hwu]

/-- From any diff the program can build, a run of checkbox changes gives a diff it can
build, with the same confirmed followers, in which each user follows once saved as their
last change says, or as before when no change names them; it is the only reachable diff
with that baseline and those followers. Hence changes of different users commute, a
repeated change is one change, a change undone restores the diff, and a store's toggle of
the tender holding the diff answers whether the diff it leaves there has changes pending. -/
theorem toggleAll_last_change_wins (d : FollowerDiff) (hd : d.Reachable)
    (changes : List (Ident × Bool)) :
    (d.toggleAll changes).Reachable ∧
    (d.toggleAll changes).confirmed = d.confirmed ∧
    (∀ v, (d.toggleAll changes).isFollowing v = (lastChange changes v).getD (d.isFollowing v)) ∧
    (∀ e : FollowerDiff, e.Reachable → e.confirmed = (d.toggleAll changes).confirmed →
      e.effective = (d.toggleAll changes).effective → e = d.toggleAll changes) ∧
    (∀ (u v : Ident) (cu cv : Bool), u ≠ v →
      (d.toggle u cu).toggle v cv = (d.toggle v cv).toggle u cu) ∧
    (∀ (u : Ident) (checked : Bool), (d.toggle u checked).toggle u checked = d.toggle u checked) ∧
    (∀ (u : Ident) (checked : Bool), (d.toggle u checked).toggle u (d.isFollowing u) = d) ∧
    (∀ (s : FollowerStore) (t u : Ident) (checked : Bool), s.get? t = some d →
      (s.toggle t u checked).1 = (d.toggle u checked).hasPending ∧
        (s.toggle t u checked).2.get? t = some (d.toggle u checked)) := by
  have hc := hd.canonical
  have hrun := hd.toggleAll changes
  refine ⟨hrun, toggleAll_confirmed d changes, hc.isFollowing_toggleAll changes, ?_,
    fun u v cu cv huv => hc.toggle_comm cu cv huv, hc.toggle_toggle_self,
    hc.toggle_restore, ?_⟩
  · intro e he hconf heff
    exact he.canonical.eq_of_confirmed_effective hrun.canonical hconf heff
  · intro s t u checked hs
    rw [FollowerStore.toggle_eq, FollowerStore.get?_update, hs]
    simp

/-- User 1 confirmed, then unchecked, user 2 checked, and user 1 checked again. -/
theorem toggleAll_last_change_wins_recheck :
    let one : Ident := ⟨1, by decide, by decide⟩
    let two : Ident := ⟨2, by decide, by decide⟩
    let d := empty.markPresent one
    let changes := [(one, false), (two, true), (one, true)]
    d.Reachable ∧
      ((d.toggleAll changes).Reachable ∧
        (d.toggleAll changes).confirmed = d.confirmed ∧
        (∀ v, (d.toggleAll changes).isFollowing v =
          (lastChange changes v).getD (d.isFollowing v)) ∧
        (∀ e : FollowerDiff, e.Reachable → e.confirmed = (d.toggleAll changes).confirmed →
          e.effective = (d.toggleAll changes).effective → e = d.toggleAll changes) ∧
        (∀ (u v : Ident) (cu cv : Bool), u ≠ v →
          (d.toggle u cu).toggle v cv = (d.toggle v cv).toggle u cu) ∧
        (∀ (u : Ident) (checked : Bool),
          (d.toggle u checked).toggle u checked = d.toggle u checked) ∧
        (∀ (u : Ident) (checked : Bool), (d.toggle u checked).toggle u (d.isFollowing u) = d) ∧
        (∀ (s : FollowerStore) (t u : Ident) (checked : Bool), s.get? t = some d →
          (s.toggle t u checked).1 = (d.toggle u checked).hasPending ∧
            (s.toggle t u checked).2.get? t = some (d.toggle u checked))) := by
  intro one two d changes
  have hd : d.Reachable := .markPresent one .empty
  exact ⟨hd, toggleAll_last_change_wins d hd changes⟩

end FollowerDiff

end TenderClient
