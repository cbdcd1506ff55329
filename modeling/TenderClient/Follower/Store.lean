import TenderClient.Follower.Diff
import TenderClient.User
/-!
# Follower stores

The diffs of every tender being edited, by tender. An entry is created the first time a
tender is touched and lives until it is discarded. Entries are kept in ascending order of
tender, which is a field of the type.

Main statements: `get?_set` and `get?_erase` say what writing and discarding do to the
look-up; every operation is written through them.
-/

set_option autoImplicit false

namespace TenderClient

/-- Why a store operation cannot run. -/
inductive FollowerError where
  /-- The tender has no diff. -/
  | unknownTender (tender : Ident)
deriving DecidableEq

/-- The sentence that reports the error. -/
def FollowerError.message : FollowerError → String
  | .unknownTender t => "no follower state for tender " ++ t.render

/-- Writes the diff of a tender into a list ordered by tender. -/
def setEntry (t : Ident) (d : FollowerDiff) :
    List (Ident × FollowerDiff) → List (Ident × FollowerDiff)
  | [] => [(t, d)]
  | (k, e) :: rest =>
    if t < k then (t, d) :: (k, e) :: rest
    else if t = k then (t, d) :: rest
    else (k, e) :: setEntry t d rest

theorem keys_setEntry (t : Ident) (d : FollowerDiff) (l : List (Ident × FollowerDiff)) :
    (setEntry t d l).map Prod.fst = IdSet.insertInto t (l.map Prod.fst) := by
  induction l with
  | nil => rfl
  | cons p rest ih =>
    obtain ⟨k, e⟩ := p
    simp only [setEntry, List.map_cons, IdSet.insertInto]
    split
    · rfl
    · split
      · rename_i h
        subst h
        rfl
      · rw [List.map_cons, ih]

/-- The diffs of the tenders being edited, ascending by tender. -/
structure FollowerStore where
  entries : List (Ident × FollowerDiff) := []
  sorted : (entries.map Prod.fst).Pairwise (· < ·) := by simp

namespace FollowerStore

/-- The diff of a tender, if it has one. -/
def get? (s : FollowerStore) (t : Ident) : Option FollowerDiff :=
  (s.entries.find? (fun e => e.1 == t)).map Prod.snd

/-- Writes the diff of a tender. -/
def set (s : FollowerStore) (t : Ident) (d : FollowerDiff) : FollowerStore :=
  ⟨setEntry t d s.entries, by
    rw [keys_setEntry]
    exact IdSet.sorted_insertInto t _ s.sorted⟩

/-- Removes the diff of a tender. -/
def erase (s : FollowerStore) (t : Ident) : FollowerStore :=
  ⟨s.entries.filter (fun e => e.1 != t), by
    have h := List.Sublist.map Prod.fst (List.filter_sublist (p := fun e => e.1 != t) (l := s.entries))
    exact s.sorted.sublist h⟩

/-- The number of tenders with a diff. -/
def size (s : FollowerStore) : Nat := s.entries.length

/-- Whether no tender has a diff. -/
def isEmpty (s : FollowerStore) : Bool := s.entries.isEmpty

/-- The diff of a tender, created empty when it has none. -/
def initialized (s : FollowerStore) (t : Ident) : FollowerDiff × FollowerStore :=
  match s.get? t with
  | some d => (d, s)
  | none => (FollowerDiff.empty, s.set t FollowerDiff.empty)

/-- Changes the diff of a tender, creating it first when missing. -/
def update (s : FollowerStore) (t : Ident) (f : FollowerDiff → FollowerDiff) : FollowerStore :=
  s.set t (f (s.initialized t).1)

/-- The server reports that a user follows a tender. -/
def markPresent (s : FollowerStore) (t : Ident) (u : Ident) : FollowerStore :=
  s.update t (·.markPresent u)

/-- Marks every listed follower as confirmed; returns how many records say they follow. -/
def seed (s : FollowerStore) (t : Ident) (users : List UserRecord) : Nat × FollowerStore :=
  let followers := users.filter (·.isFollower)
  (followers.length, s.update t fun d => followers.foldl (fun acc u => acc.markPresent u.id) d)

/-- Checks or unchecks a user's box; returns whether anything is pending. -/
def toggle (s : FollowerStore) (t u : Ident) (checked : Bool) : Bool × FollowerStore :=
  let s' := s.update t (·.toggle u checked)
  ((s'.get? t).any (·.hasPending), s')

/-- Whether a tender has changes waiting; a tender without a diff has none. -/
def hasPending (s : FollowerStore) (t : Ident) : Bool := (s.get? t).any (·.hasPending)

/-- The diff of a tender, or the error that it has none. -/
def require (s : FollowerStore) (t : Ident) : Except FollowerError FollowerDiff :=
  match s.get? t with
  | some d => .ok d
  | none => .error (.unknownTender t)

/-- The payload of a tender's diff. -/
def payload (s : FollowerStore) (t : Ident) : Except FollowerError FollowerPayload :=
  (s.require t).map (·.payload)

/-- Folds a tender's pending changes into its confirmed followers; returns their number. -/
def commit (s : FollowerStore) (t : Ident) : Except FollowerError (Nat × FollowerStore) :=
  (s.require t).map fun d => (d.commit.confirmed.size, s.set t d.commit)

/-- Removes a tender's diff and returns it. -/
def discard (s : FollowerStore) (t : Ident) : Option FollowerDiff × FollowerStore :=
  (s.get? t, s.erase t)

theorem find?_setEntry (t x : Ident) (d : FollowerDiff) (l : List (Ident × FollowerDiff)) :
    ((setEntry t d l).find? (fun e => e.1 == x)).map Prod.snd =
      if x = t then some d else (l.find? (fun e => e.1 == x)).map Prod.snd := by
  induction l with
  | nil =>
    simp only [setEntry, List.find?_cons, List.find?_nil]
    by_cases h : x = t
    · subst h
      simp
    · have h' : (t == x) = false := by simp [Ne.symm h]
      simp [h', h]
  | cons p rest ih =>
    obtain ⟨k, e⟩ := p
    simp only [setEntry]
    split
    · next hlt =>
      by_cases h : x = t
      · subst h
        simp
      · have h' : (t == x) = false := by simp [Ne.symm h]
        simp [h', h]
    · split
      · next hlt heq =>
        subst heq
        by_cases h : x = t
        · subst h
          simp
        · have h' : (t == x) = false := by simp [Ne.symm h]
          simp [h', h]
      · next hlt hne =>
        by_cases hk : k = x
        · subst hk
          have hkt : ¬ k = t := fun h => hne h.symm
          simp [hkt]
        · have h' : (k == x) = false := by simp [hk]
          simp only [List.find?_cons, h', ih]

theorem get?_set (s : FollowerStore) (t x : Ident) (d : FollowerDiff) :
    (s.set t d).get? x = if x = t then some d else s.get? x := by
  simp only [get?, set]
  exact find?_setEntry t x d s.entries

theorem get?_erase (s : FollowerStore) (t x : Ident) :
    (s.erase t).get? x = if x = t then none else s.get? x := by
  simp only [get?, erase, List.find?_filter]
  split
  · next h =>
    subst h
    have hnone : List.find?
        (fun e : Ident × FollowerDiff => decide ((e.1 != x) = true ∧ (e.1 == x) = true))
        s.entries = none := by
      rw [List.find?_eq_none]
      intro e _
      by_cases he : e.1 = x <;> simp [he]
    rw [hnone]
    rfl
  · next h =>
    have hp : (fun e : Ident × FollowerDiff => decide ((e.1 != t) = true ∧ (e.1 == x) = true)) =
        (fun e => e.1 == x) := by
      funext e
      by_cases he : e.1 = x
      · subst he
        simp [h]
      · simp [he]
    rw [hp]

end FollowerStore

end TenderClient
