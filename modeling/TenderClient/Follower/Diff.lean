import TenderClient.Follower.IdSet
import TenderClient.Follower.Payload
/-!
# Follower diffs

The follower state of one tender while it is being edited: the users the server confirmed
as followers, the users checked since (to be added) and the confirmed users unchecked
since (to be removed). Checking and unchecking a box is `toggle`; a confirmed save folds
the pending sets into the confirmed one (`commit`).

Main statements: `mem_effective` (who follows once the diff is saved), `isFollowing_iff`
(the quick test of a box is membership in that set) and `mem_commit_confirmed` (a commit
confirms exactly those users).
-/

set_option autoImplicit false

namespace TenderClient

/-- The follower state of one tender. -/
structure FollowerDiff where
  /-- Followers the server confirmed. -/
  confirmed : IdSet := IdSet.empty
  /-- Users checked since, not yet confirmed. -/
  added : IdSet := IdSet.empty
  /-- Confirmed users unchecked since. -/
  removed : IdSet := IdSet.empty

namespace FollowerDiff

/-- The diff with nothing in it. -/
def empty : FollowerDiff := {}

/-- The server reports that a user follows: confirmed, and no longer pending as added. -/
def markPresent (d : FollowerDiff) (u : Ident) : FollowerDiff :=
  { d with added := d.added.erase u, confirmed := d.confirmed.insert u }

/-- How many changes wait for a save. -/
def pendingCount (d : FollowerDiff) : Nat := d.added.size + d.removed.size

/-- Whether any change waits for a save. -/
def hasPending (d : FollowerDiff) : Bool := d.pendingCount > 0

/-- A box is checked or unchecked. Checking an unconfirmed user adds them and checking a
confirmed one cancels their removal; unchecking a confirmed user removes them and
unchecking an unconfirmed one cancels their addition. -/
def toggle (d : FollowerDiff) (u : Ident) (checked : Bool) : FollowerDiff :=
  let known := d.confirmed.contains u
  match checked, known with
  | true, false => { d with added := d.added.insert u }
  | true, true => { d with removed := d.removed.erase u }
  | false, true => { d with removed := d.removed.insert u }
  | false, false => { d with added := d.added.erase u }

/-- The followers once the diff is saved. -/
def effective (d : FollowerDiff) : IdSet := (d.confirmed.union d.added).diff d.removed

/-- Whether a user follows once the diff is saved. -/
def isFollowing (d : FollowerDiff) (u : Ident) : Bool :=
  !d.removed.contains u && (d.confirmed.contains u || d.added.contains u)

/-- The three sets as ascending lists. -/
def payload (d : FollowerDiff) : FollowerPayload :=
  ⟨d.confirmed.toList, d.added.toList, d.removed.toList⟩

/-- Folds the pending changes into the confirmed followers: the added users are moved into
the confirmed ones, then each removed user, taken out of the diff, is erased from them. -/
def commit (d : FollowerDiff) : FollowerDiff :=
  { confirmed := d.removed.toList.foldl (fun acc u => acc.erase u) (d.confirmed.union d.added),
    added := IdSet.empty, removed := IdSet.empty }

theorem mem_effective (d : FollowerDiff) (u : Ident) :
    u ∈ d.effective ↔ (u ∈ d.confirmed ∨ u ∈ d.added) ∧ ¬ u ∈ d.removed := by
  simp [effective]

theorem isFollowing_iff (d : FollowerDiff) (u : Ident) :
    d.isFollowing u = true ↔ u ∈ d.effective := by
  simp [isFollowing, mem_effective, IdSet.contains_iff, IdSet.contains_eq_false_iff, and_comm]

/-- The followers a commit confirms are the followers once the diff is saved. -/
theorem mem_commit_confirmed (d : FollowerDiff) (u : Ident) :
    u ∈ d.commit.confirmed ↔ u ∈ d.effective := by
  rw [commit, IdSet.mem_foldl_erase, mem_effective, IdSet.mem_union, IdSet.mem_iff d.removed]

end FollowerDiff

end TenderClient
