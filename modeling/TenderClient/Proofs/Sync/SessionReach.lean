import TenderClient.Proofs.Sync.Save
/-!
# The diffs a session holds

A session moves only on the steps that succeed: opening a tender, toggling a box, saving,
closing and deleting a tender. A step that fails returns its error and no session, so the
caller keeps the one it had. A step that talks to the server is made over the network as it
is at that moment, so the server may answer differently from one step to the next. Each
successful step changes the session's store by store operations only, whatever the server
answered: an open discards the tender and seeds it from the listing the server sent, a
save commits the tender or leaves the store alone, a close or a deletion discards the
tender (`Reachable.store_reachable`). The diffs of a session are thus diffs of a
reachable store, hence reachable diffs, hence canonical.

The main statement is `reachable_diffs_canonical`, the canonical form at the three levels
where the program holds diffs.
-/

set_option autoImplicit false

namespace TenderClient

namespace Sync

/-- A step followed by an answer succeeds only when the step did, with the answer built from
its result. -/
theorem Exchange.exists_of_run_bind_pure {α β : Type} {x : Exchange α} {g : α → β} {b : β}
    (h : (x >>= fun a => pure (g a)).run.1 = .ok b) : ∃ a, x.run.1 = .ok a ∧ b = g a := by
  rw [Exchange.run_bind_pure] at h
  rcases hx : x.run with ⟨r, sent⟩
  rw [hx] at h
  cases r with
  | error e => cases h
  | ok a =>
    cases h
    exact ⟨a, rfl, rfl⟩

namespace Session

/-- The session reaching its server over the network as it is at some moment. -/
def onNetwork (s : Session) (net : Web.Network) : Session :=
  { s with server := { s.server with network := net } }

@[simp] theorem onNetwork_store (s : Session) (net : Web.Network) :
    (s.onNetwork net).store = s.store := rfl

@[simp] theorem onNetwork_actingUser (s : Session) (net : Web.Network) :
    (s.onNetwork net).actingUser = s.actingUser := rfl

theorem openTender_eq (s : Session) (t : Ident) :
    s.openTender t = (s.server.fetchUsers t >>= fun users =>
      pure (users, { s with store := ((s.store.discard t).2.seed t users).2 })) := rfl

theorem deleteTender_eq (s : Session) (t : Ident) :
    s.deleteTender t = (s.server.deleteTender t >>= fun answer =>
      pure (answer, { s with store := (s.store.discard t).2 })) := rfl

@[simp] theorem toggle_snd_store (s : Session) (t u : Ident) (checked : Bool) :
    (s.toggle t u checked).2.store = (s.store.toggle t u checked).2 := rfl

@[simp] theorem close_snd_store (s : Session) (t : Ident) :
    (s.close t).2.store = (s.store.discard t).2 := rfl

/-- An open that succeeds replaces the tender's diff by one seeded from the listing. -/
theorem store_of_openTender {s s' : Session} {t : Ident} {users : List UserRecord}
    (h : (s.openTender t).run.1 = .ok (users, s')) :
    s'.store = ((s.store.discard t).2.seed t users).2 := by
  rw [openTender_eq] at h
  obtain ⟨fetched, -, hb⟩ := Exchange.exists_of_run_bind_pure h
  cases hb
  rfl

/-- A deletion that succeeds discards the tender's diff. -/
theorem store_of_deleteTender {s s' : Session} {t : Ident} {answer : String}
    (h : (s.deleteTender t).run.1 = .ok (answer, s')) : s'.store = (s.store.discard t).2 := by
  rw [deleteTender_eq] at h
  obtain ⟨reply, -, hb⟩ := Exchange.exists_of_run_bind_pure h
  cases hb
  rfl

/-- A save that succeeds leaves the store as it was, or commits the tender. -/
theorem store_of_save {s s' : Session} {t : Ident} {o : SaveOutcome}
    (h : (s.save t).run.1 = .ok (o, s')) :
    s'.store = s.store ∨ ∃ n, s.store.commit t = .ok (n, s'.store) := by
  cases hd : s.store.get? t with
  | none =>
    rw [save_of_get?_none hd, Exchange.run_throw] at h
    cases h
  | some d =>
    cases hp : d.hasPending with
    | false =>
      rw [save_of_not_hasPending hd hp, Exchange.run_pure] at h
      cases h
      exact .inl rfl
    | true =>
      -- the payload was taken; the store is the commit of the diff that was sent
      rw [save_of_hasPending hd hp] at h
      obtain ⟨_, -, hb⟩ := Exchange.exists_of_run_bind_pure h
      cases hb
      exact .inr ⟨_, FollowerStore.commit_of_get?_some hd⟩

/-- The sessions a program can reach from a new one by the steps that succeed: opening a
tender, toggling a box, saving, closing and deleting a tender. Each step that talks to the
server is made over the network as it is at that moment, so the server's answers may
change from one step to the next. The other steps, and the steps that fail, leave the
session as it was. -/
inductive Reachable : Session → Prop
  | start (server : Server) (actingUser : Option Ident) :
      Reachable { server := server, actingUser := actingUser }
  | openTender {s s' : Session} {users : List UserRecord} (net : Web.Network) (t : Ident) :
      Reachable s → ((s.onNetwork net).openTender t).run.1 = .ok (users, s') → Reachable s'
  | toggle {s : Session} (t u : Ident) (checked : Bool) :
      Reachable s → Reachable (s.toggle t u checked).2
  | save {s s' : Session} {o : SaveOutcome} (net : Web.Network) (t : Ident) :
      Reachable s → ((s.onNetwork net).save t).run.1 = .ok (o, s') → Reachable s'
  | close {s : Session} (t : Ident) : Reachable s → Reachable (s.close t).2
  | deleteTender {s s' : Session} {answer : String} (net : Web.Network) (t : Ident) :
      Reachable s → ((s.onNetwork net).deleteTender t).run.1 = .ok (answer, s') → Reachable s'

/-- Every session step is a run of store operations, so a reachable session holds a
reachable store. -/
theorem Reachable.store_reachable {s : Session} (h : s.Reachable) : s.store.Reachable := by
  induction h with
  | start => exact .empty
  | openTender net t _ hrun ih =>
    rw [store_of_openTender hrun, onNetwork_store]
    exact .seed t _ (.discard t ih)
  | toggle t u checked _ ih =>
    rw [toggle_snd_store]
    exact .toggle t u checked ih
  | save net t _ hrun ih =>
    rcases store_of_save hrun with hsame | ⟨n, hcommit⟩
    · rw [hsame, onNetwork_store]
      exact ih
    · rw [onNetwork_store] at hcommit
      exact .commit t ih hcommit
  | close t _ ih =>
    rw [close_snd_store]
    exact .discard t ih
  | deleteTender net t _ hrun ih =>
    rw [store_of_deleteTender hrun, onNetwork_store]
    exact .discard t ih

end Session

end Sync

open Sync in
/-- Every diff the program holds has the canonical shape: a user pending addition is not
confirmed and a user pending removal is, so no user is pending both ways. This holds of a
diff built by its own operations, of every diff of a store built by the store's operations,
and of every diff of a session after any run of opens, toggles, saves, closes and
deletions, each against the server as it answers at that moment. -/
theorem reachable_diffs_canonical :
    (∀ d : FollowerDiff, d.Reachable → d.Canonical) ∧
    (∀ (s : FollowerStore) (t : Ident) (d : FollowerDiff),
      s.Reachable → s.get? t = some d → d.Canonical) ∧
    (∀ (s : Session) (t : Ident) (d : FollowerDiff),
      s.Reachable → s.store.get? t = some d → d.Canonical) ∧
    (∀ d : FollowerDiff, d.Canonical → ∀ u ∈ d.added, u ∉ d.removed) := by
  refine ⟨fun d hd => hd.canonical, ?_, ?_, fun d hd u hu => hd.not_removed_of_added hu⟩
  · intro s t d hs hd
    exact (hs.get?_reachable t d hd).canonical
  · intro s t d hs hd
    exact (hs.store_reachable.get?_reachable t d hd).canonical

/-- A new session against a server it cannot reach, after user 2 is checked on tender 1:
the diff it holds is canonical. -/
theorem reachable_diffs_canonical_first_toggle :
    let one : Ident := ⟨1, by decide, by decide⟩
    let two : Ident := ⟨2, by decide, by decide⟩
    let server : Sync.Server := ⟨{ baseUrl := "http://stub" }, Web.Network.unreachable⟩
    let s := (({ server := server } : Sync.Session).toggle one two true).2
    s.Reachable ∧ s.store.get? one = some (FollowerDiff.empty.toggle two true) ∧
      (FollowerDiff.empty.toggle two true).Canonical := by
  intro one two server s
  have hs : s.Reachable := .toggle one two true (.start server none)
  have hget : s.store.get? one = some (FollowerDiff.empty.toggle two true) := by
    rw [Sync.Session.toggle_snd_store, FollowerStore.toggle_eq, FollowerStore.get?_update,
      if_pos rfl]
    rfl
  exact ⟨hs, hget, reachable_diffs_canonical.2.2.1 s one _ hs hget⟩

end TenderClient
