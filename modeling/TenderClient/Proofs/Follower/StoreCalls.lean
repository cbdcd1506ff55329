import Mathlib.Data.Set.Card
import TenderClient.Json.Encode
import TenderClient.Proofs.Follower.StoreReach
/-!
# Every call on a store acts on its own tender

A view reads and writes its store one tender at a time: every call of the store's interface
names a tender. This module says, for the whole interface at once, that such a call sees
and changes that tender's entry and nothing else:

* its answer is read from the tender's entry alone (`StoreCall.answer`);
* afterwards the tender's entry is `StoreCall.onEntry` of the entry before, and every other
  tender's entry is as it was (`get?_call`);
* a call that leaves its tender's entry as it was leaves the whole store as it was
  (`call_eq_self`), because a store is determined by its look-up (`FollowerStore.ext`).

Read through `onEntry` and `answer`: the writing calls create an empty diff only for a
tender that has none and then apply their diff operation, so an existing diff is never
reset; a commit, a payload and a serialization fail with `unknownTender` on a tender
without a diff, and change nothing; a discard removes the entry and returns it. The number
of entries of any store is the number of tenders that have a diff (`size_eq_ncard`).

The main statement is `call_acts_on_own_entry`.
-/

set_option autoImplicit false

namespace TenderClient

namespace FollowerStore

/-! ## A store is its look-up -/

/-- In a list of entries ordered by tender, an entry is present exactly when the look-up of
its tender finds its diff. -/
theorem mem_iff_find? {l : List (Ident × FollowerDiff)} (hl : (l.map Prod.fst).Pairwise (· < ·))
    (t : Ident) (d : FollowerDiff) :
    (t, d) ∈ l ↔ (l.find? (fun e => e.1 == t)).map Prod.snd = some d := by
  induction l with
  | nil => simp
  | cons e rest ih =>
    obtain ⟨k, e⟩ := e
    rw [List.map_cons, List.pairwise_cons] at hl
    obtain ⟨hk, hrest⟩ := hl
    by_cases hkt : k = t
    · subst hkt
      -- the head's tender comes before every later one, so no later entry has it
      have hlater : ∀ d', (k, d') ∉ rest := fun d' h =>
        Nat.lt_irrefl _ (hk k (List.mem_map_of_mem (f := Prod.fst) h))
      simp [hlater, eq_comm]
    · have hne : (k == t) = false := by simp [hkt]
      have hhead : (t, d) ≠ (k, e) := fun h => hkt (Prod.mk.inj h).1.symm
      simp only [List.mem_cons, hhead, false_or, List.find?_cons, hne]
      exact ih hrest

theorem mem_entries_iff (s : FollowerStore) (t : Ident) (d : FollowerDiff) :
    (t, d) ∈ s.entries ↔ s.get? t = some d :=
  mem_iff_find? s.sorted t d

/-- The entries of a store, ordered by tender. -/
theorem entries_sorted (s : FollowerStore) : s.entries.Pairwise (fun a b => a.1 < b.1) :=
  List.pairwise_map.mp s.sorted

/-- Two stores with the same look-up are the same store: the entries are kept in order of
tender, so the look-up leaves them no other arrangement. -/
theorem ext {s s' : FollowerStore} (h : ∀ t, s.get? t = s'.get? t) : s = s' := by
  have hnodup : ∀ r : FollowerStore, r.entries.Nodup := fun r =>
    r.entries_sorted.imp fun {a b} hab heq => by
      subst heq
      exact Nat.lt_irrefl _ hab
  have hmem : ∀ e, e ∈ s.entries ↔ e ∈ s'.entries := by
    rintro ⟨t, d⟩
    rw [mem_entries_iff, mem_entries_iff, h]
  have hperm := (List.perm_ext_iff_of_nodup (hnodup s) (hnodup s')).mpr hmem
  have heq : s.entries = s'.entries :=
    hperm.eq_of_pairwise (fun _ _ _ _ hab hba => absurd (IdSet.lt_trans' hab hba) (Nat.lt_irrefl _))
      s.entries_sorted s'.entries_sorted
  cases s
  cases s'
  simp only at heq
  subst heq
  rfl

/-- A tender has a diff exactly when it is one of the store's keys. -/
theorem isSome_get?_iff (s : FollowerStore) (t : Ident) :
    (s.get? t).isSome ↔ t ∈ s.entries.map Prod.fst := by
  simp only [get?, Option.isSome_map, List.find?_isSome, beq_iff_eq, List.mem_map]

/-- The number of entries of a store is the number of tenders that have a diff. -/
theorem size_eq_ncard (s : FollowerStore) : s.size = {t | (s.get? t).isSome}.ncard := by
  have hnodup : (s.entries.map Prod.fst).Nodup := s.sorted.imp fun {a b} hab heq => by
    subst heq
    exact Nat.lt_irrefl _ hab
  have hset : {t | (s.get? t).isSome} = ↑(s.entries.map Prod.fst).toFinset := by
    ext t
    simp only [Set.mem_ofPred_eq, isSome_get?_iff, Finset.mem_coe, List.mem_toFinset]
  rw [hset, Set.ncard_coe_finset, List.toFinset_card_of_nodup hnodup, List.length_map]
  rfl

end FollowerStore

/-! ## The calls -/

/-- A call on one tender of a store, as a view makes it. -/
inductive StoreCall where
  /-- Creates the tender's diff unless it has one, and gives it. -/
  | initialized
  | markPresent (u : Ident)
  | seed (users : List UserRecord)
  | toggle (u : Ident) (checked : Bool)
  | get
  | hasPending
  | payload
  | serialize
  | commit
  | discard

/-- What a call on a store answers. -/
inductive StoreReply where
  | diff (d : FollowerDiff)
  | done
  | count (n : Nat)
  | flag (b : Bool)
  | entry (d : Option FollowerDiff)
  | payload (p : FollowerPayload)
  | text (s : String)

/-- Makes a call on a tender: its answer, and the store after it. A call that fails keeps
the store it was made on. -/
def FollowerStore.call (s : FollowerStore) (t : Ident) :
    StoreCall → Except FollowerError StoreReply × FollowerStore
  | .initialized => (.ok (.diff (s.initialized t).1), (s.initialized t).2)
  | .markPresent u => (.ok .done, s.markPresent t u)
  | .seed users => (.ok (.count (s.seed t users).1), (s.seed t users).2)
  | .toggle u checked => (.ok (.flag (s.toggle t u checked).1), (s.toggle t u checked).2)
  | .get => (.ok (.entry (s.get? t)), s)
  | .hasPending => (.ok (.flag (s.hasPending t)), s)
  | .payload => ((s.payload t).map .payload, s)
  | .serialize => ((s.serialize t).map .text, s)
  | .commit =>
    match s.commit t with
    | .ok (n, s') => (.ok (.count n), s')
    | .error e => (.error e, s)
  | .discard => (.ok (.entry (s.discard t).1), (s.discard t).2)

namespace StoreCall

/-- What a call does to its tender's entry. A writing call starts from an empty diff only
when there is none, then applies its diff operation; a commit folds the diff that is
there; a discard removes the entry; a reading call keeps it. -/
def onEntry : StoreCall → Option FollowerDiff → Option FollowerDiff
  | .initialized, e => some (e.getD .empty)
  | .markPresent u, e => some ((e.getD .empty).markPresent u)
  | .seed users, e =>
    some ((users.filter (·.isFollower)).foldl (fun d r => d.markPresent r.id) (e.getD .empty))
  | .toggle u checked, e => some ((e.getD .empty).toggle u checked)
  | .commit, e => e.map FollowerDiff.commit
  | .discard, _ => none
  | .get, e => e
  | .hasPending, e => e
  | .payload, e => e
  | .serialize, e => e

/-- The diff a call needs, or the error that names a tender without one. -/
def needDiff (t : Ident) : Option FollowerDiff → Except FollowerError FollowerDiff
  | some d => .ok d
  | none => .error (.unknownTender t)

/-- What a call on tender `t` answers, from the entry of `t` alone. A tender without a diff
has nothing pending; the payload, the serialization and the commit of a tender without a
diff fail, naming it. -/
def answer (t : Ident) : StoreCall → Option FollowerDiff → Except FollowerError StoreReply
  | .initialized, e => .ok (.diff (e.getD .empty))
  | .markPresent _, _ => .ok .done
  | .seed users, _ => .ok (.count (users.filter (·.isFollower)).length)
  | .toggle u checked, e => .ok (.flag ((e.getD .empty).toggle u checked).hasPending)
  | .get, e => .ok (.entry e)
  | .hasPending, e => .ok (.flag (e.any (·.hasPending)))
  | .payload, e => (needDiff t e).map fun d => .payload d.payload
  | .serialize, e => (needDiff t e).map fun d => .text d.payload.toJson.compact
  | .commit, e => (needDiff t e).map fun d => .count d.commit.confirmed.size
  | .discard, e => .ok (.entry e)

end StoreCall

namespace FollowerStore

/-- The diff the store's own `require` finds is the one its look-up gives. -/
theorem require_eq (s : FollowerStore) (t : Ident) :
    s.require t = StoreCall.needDiff t (s.get? t) := by
  unfold require
  cases s.get? t <;> rfl

/-- A call's answer is read from its tender's entry alone. -/
theorem call_fst (s : FollowerStore) (t : Ident) (c : StoreCall) :
    (s.call t c).1 = c.answer t (s.get? t) := by
  cases c with
  | initialized => simp only [call, StoreCall.answer, initialized_fst]
  | markPresent u => rfl
  | seed users => rfl
  | toggle u checked => simp only [call, StoreCall.answer, toggle_eq]
  | get => rfl
  | hasPending => rfl
  | payload =>
    simp only [call, StoreCall.answer, payload, require_eq]
    cases StoreCall.needDiff t (s.get? t) <;> rfl
  | serialize =>
    simp only [call, StoreCall.answer, serialize, payload, require_eq]
    cases StoreCall.needDiff t (s.get? t) <;> rfl
  | commit =>
    simp only [call, StoreCall.answer]
    cases hd : s.get? t with
    | none => rw [commit_of_get?_none hd]; rfl
    | some d => rw [commit_of_get?_some hd]; rfl
  | discard => rfl

/-- After a call, its tender holds `onEntry` of what it held, and every other tender holds
what it held. -/
theorem get?_call (s : FollowerStore) (t : Ident) (c : StoreCall) (x : Ident) :
    (s.call t c).2.get? x = if x = t then c.onEntry (s.get? t) else s.get? x := by
  cases c with
  | initialized => exact get?_initialized s t x
  | markPresent u => exact get?_update s t x _
  | seed users => exact get?_update s t x _
  | toggle u checked =>
    simp only [call, toggle_eq]
    exact get?_update s t x _
  | commit =>
    simp only [call]
    cases hd : s.get? t with
    | none =>
      rw [commit_of_get?_none hd]
      show s.get? x = if x = t then none else s.get? x
      split
      · next hx => rw [hx, hd]
      · rfl
    | some d =>
      rw [commit_of_get?_some hd]
      exact get?_set s t x d.commit
  | discard => exact get?_erase s t x
  | get | hasPending | payload | serialize =>
    split
    · next hx =>
      subst hx
      rfl
    · rfl

/-- A call that leaves its tender's entry as it was leaves the whole store as it was. -/
theorem call_eq_self (s : FollowerStore) (t : Ident) (c : StoreCall)
    (h : c.onEntry (s.get? t) = s.get? t) : (s.call t c).2 = s := by
  apply ext
  intro x
  rw [get?_call]
  split
  · next hx =>
    subst hx
    exact h
  · rfl

end FollowerStore

/-- Every call on a store acts on its own tender's entry and on nothing else: its answer is
read from that entry; afterwards the entry is `onEntry` of the entry before, and every
other tender's entry is as it was; a call that keeps its tender's entry keeps the whole
store, so a read, and a commit, payload or serialization that fails on a tender without a
diff, change nothing; and the store then has as many entries as there are tenders with a
diff. -/
theorem call_acts_on_own_entry (s : FollowerStore) (t : Ident) (c : StoreCall) :
    (s.call t c).1 = c.answer t (s.get? t) ∧
    (s.call t c).2.get? t = c.onEntry (s.get? t) ∧
    (∀ x, x ≠ t → (s.call t c).2.get? x = s.get? x) ∧
    (c.onEntry (s.get? t) = s.get? t → (s.call t c).2 = s) ∧
    (s.call t c).2.size = {x | ((s.call t c).2.get? x).isSome}.ncard := by
  refine ⟨s.call_fst t c, ?_, fun x hx => ?_, s.call_eq_self t c, (s.call t c).2.size_eq_ncard⟩
  · rw [FollowerStore.get?_call, if_pos rfl]
  · rw [FollowerStore.get?_call, if_neg hx]

/-- A commit on a tender without a diff, in a store where another tender has one, fails
naming the tender and leaves the store as it was. -/
theorem call_commit_unknown_tender :
    let one : Ident := ⟨1, by decide, by decide⟩
    let two : Ident := ⟨2, by decide, by decide⟩
    let s : FollowerStore := (({} : FollowerStore).toggle one two true).2
    StoreCall.onEntry .commit (s.get? two) = s.get? two ∧
      (s.call two .commit).1 = .error (.unknownTender two) ∧ (s.call two .commit).2 = s := by
  intro one two s
  -- the toggle gave tender one a diff and left tender two without one
  have hget : s.get? two = none := by
    simp only [s, FollowerStore.toggle_eq, FollowerStore.get?_update]
    rfl
  have hkeep : StoreCall.onEntry .commit (s.get? two) = s.get? two := by
    rw [hget]
    rfl
  obtain ⟨hanswer, -, -, hself, -⟩ := call_acts_on_own_entry s two .commit
  refine ⟨hkeep, ?_, hself hkeep⟩
  rw [hanswer, hget]
  rfl

end TenderClient
