import TenderClient.Sync.Server
/-!
# Editing followers against the server

A session keeps the follower diffs of the tenders being edited, and the user acting, and
talks to the server:

* opening a tender fetches its listing; only once that succeeds is its diff replaced by
  one seeded from the listing;
* toggling and asking for pending changes stay local;
* saving sends the payload only when something is pending, and commits the diff only once
  the server took it; the answer says how many followers the tender has and whether the
  acting user is one of them;
* closing drops the diff; deleting the tender drops it only once the server agreed;
* the favourite and seen flags and tags go straight to the server; a blank tag name fails
  before anything is sent.

A failed step leaves the session as it was.
-/

set_option autoImplicit false

namespace TenderClient.Sync

/-- What a save did. -/
structure SaveOutcome where
  submitted : Bool
  totalFollowers : Nat
  followedByMe : Bool
deriving DecidableEq

/-- A session of follower edits. -/
structure Session where
  server : Server
  store : FollowerStore := {}
  actingUser : Option Ident := none

namespace Session

/-- Whether the acting user is a confirmed follower of a tender. -/
def confirmedFollower (s : Session) (t : Ident) : Bool :=
  match s.actingUser, s.store.get? t with
  | some u, some d => d.confirmed.contains u
  | _, _ => false

/-- Fetches the listing of a tender and starts its diff afresh from it. -/
def openTender (s : Session) (t : Ident) : Exchange (List UserRecord × Session) := do
  let users ← s.server.fetchUsers t
  let (_, store) := s.store.discard t
  let (_, store) := store.seed t users
  pure (users, { s with store })

/-- Marks a user as following a tender or not; whether the tender has pending changes. -/
def toggle (s : Session) (t u : Ident) (checked : Bool) : Bool × Session :=
  let (b, store) := s.store.toggle t u checked
  (b, { s with store })

/-- Whether a tender has changes not saved yet. -/
def hasPending (s : Session) (t : Ident) : Bool := s.store.hasPending t

/-- Saves the pending changes of a tender, if any. -/
def save (s : Session) (t : Ident) : Exchange (SaveOutcome × Session) := do
  let d ← match s.store.get? t with
    | some d => pure d
    | none => throw (.follower (.unknownTender t))
  if !d.hasPending then
    return ({ submitted := false, totalFollowers := d.confirmed.size,
              followedByMe := s.confirmedFollower t }, s)
  s.server.saveFollowers t d.payload
  match s.store.commit t with
  | .error e => throw (.follower e)
  | .ok (total, store) =>
    let s := { s with store }
    return ({ submitted := true, totalFollowers := total,
              followedByMe := s.confirmedFollower t }, s)

/-- Drops the diff of a tender; whether there was one. -/
def close (s : Session) (t : Ident) : Bool × Session :=
  let (d, store) := s.store.discard t
  (d.isSome, { s with store })

/-- Marks a tender as a favourite or not. -/
def setFavourite (s : Session) (t : Ident) (favourite : Bool) : Exchange Unit :=
  s.server.setFavourite t favourite

/-- Marks a tender as seen or not. -/
def setSeen (s : Session) (t : Ident) (seen : Bool) : Exchange Unit :=
  s.server.setSeen t seen

/-- Adds a tag, blanks around its name dropped, to a tender. -/
def addTag (s : Session) (t : Ident) (name : String) : Exchange TagName := do
  match TagName.ofString name with
  | .error e => throw (.tag e)
  | .ok tag =>
    s.server.addTag t tag
    pure tag

/-- Deletes a tender on the server, then drops its diff; the server's answer. -/
def deleteTender (s : Session) (t : Ident) : Exchange (String × Session) := do
  let answer ← s.server.deleteTender t
  let (_, store) := s.store.discard t
  pure (answer, { s with store })

theorem addTag_blank (s : Session) (t : Ident) (name : String) (h : Text.trimBlank name = "") :
    (s.addTag t name).run = (.error (.tag .empty), []) := by
  simp [addTag, TagName.ofString, h, Exchange.run]

end Session

end TenderClient.Sync
