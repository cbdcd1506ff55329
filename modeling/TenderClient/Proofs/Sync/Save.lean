import TenderClient.Sync.Session
import TenderClient.Proofs.Follower.Commit
/-!
# Saving a tender's followers

A save takes one of three paths, decided before anything is sent: a tender without a diff
fails at once, a diff with nothing pending answers from the confirmed followers, and a
diff with changes pending is sent to the server as its payload, once. Only when the server
takes the payload is the diff committed, and the commit is then the payload folded: its
confirmed and added users less its removed ones (`payload_folded`). The commit's own
failure, a tender without a diff, cannot happen on that path, since the diff was found
before the request.

The main statement is `run_save_eq`: the whole run of a save, requests included, in
closed form.
-/

set_option autoImplicit false

namespace TenderClient

/-- The diff a payload leaves once the server took it: the confirmed and added users, less
the removed ones, with nothing pending. -/
def FollowerPayload.folded (p : FollowerPayload) : FollowerDiff :=
  { confirmed := ((IdSet.ofList p.confirmed).union (IdSet.ofList p.added)).diff
      (IdSet.ofList p.removed) }

/-- Reading a set's list back gives the set. -/
theorem IdSet.ofList_toList (s : IdSet) : IdSet.ofList s.toList = s :=
  IdSet.ext fun x => by rw [IdSet.mem_ofList, IdSet.mem_iff]

/-- Folding the payload of a diff is committing the diff. -/
theorem FollowerDiff.payload_folded (d : FollowerDiff) : d.payload.folded = d.commit := by
  simp only [FollowerPayload.folded, FollowerDiff.payload, IdSet.ofList_toList]
  rw [FollowerDiff.commit_eq]
  rfl

namespace Sync

/-! ## Runs of exchanges -/

theorem Exchange.run_pure {α : Type} (a : α) : (pure a : Exchange α).run = (.ok a, []) := rfl

theorem Exchange.run_throw {α : Type} (e : SyncError) :
    (throw e : Exchange α).run = (.error e, []) := rfl

/-- A step followed by an answer built from its result: the step's requests, and its
failure or the answer. -/
theorem Exchange.run_bind_pure {α β : Type} (x : Exchange α) (g : α → β) :
    (x >>= fun a => pure (g a)).run =
      match x.run with
      | (.error e, sent) => (.error e, sent)
      | (.ok a, sent) => (.ok (g a), sent) := by
  simp only [Exchange.run, ExceptT.run_bind, StateT.run_bind]
  rcases h : ((ExceptT.run x).run []).run with ⟨r, sent⟩
  cases r with
  | error e => simp [h]
  | ok a => simp [h]

namespace Session

/-- The acting user is a confirmed follower of a tender when the tender's diff confirms them. -/
theorem confirmedFollower_of_get? {s : Session} {t : Ident} {d : FollowerDiff}
    (h : s.store.get? t = some d) : s.confirmedFollower t = s.actingUser.any d.confirmed.contains := by
  unfold confirmedFollower
  rw [h]
  cases s.actingUser <;> rfl

/-! ## The three paths of a save -/

/-- A save of a tender without a diff fails before anything is sent. -/
theorem save_of_get?_none {s : Session} {t : Ident} (h : s.store.get? t = none) :
    s.save t = throw (.follower (.unknownTender t)) := by
  simp [save, h]

/-- A save with nothing pending sends nothing and reports the confirmed followers. -/
theorem save_of_not_hasPending {s : Session} {t : Ident} {d : FollowerDiff}
    (h : s.store.get? t = some d) (hp : d.hasPending = false) :
    s.save t = pure ({ submitted := false, totalFollowers := d.confirmed.size,
                       followedByMe := s.actingUser.any d.confirmed.contains }, s) := by
  rw [← confirmedFollower_of_get? h]
  simp [save, h, hp]

/-- With changes pending, a save sends the payload and, once it is taken, commits the diff;
the answer is read from the committed diff. -/
theorem save_of_hasPending {s : Session} {t : Ident} {d : FollowerDiff}
    (h : s.store.get? t = some d) (hp : d.hasPending = true) :
    s.save t = (s.server.saveFollowers t d.payload >>= fun _ =>
      pure ({ submitted := true, totalFollowers := d.commit.confirmed.size,
              followedByMe := s.actingUser.any d.commit.confirmed.contains },
            { s with store := s.store.set t d.commit })) := by
  -- the commit finds the diff that was sent, so its error branch is never taken
  have hcommit := FollowerStore.commit_of_get?_some h
  have hfollow : ({ s with store := s.store.set t d.commit } : Session).confirmedFollower t =
      s.actingUser.any d.commit.confirmed.contains := by
    apply confirmedFollower_of_get?
    simp [FollowerStore.get?_set]
  rw [← hfollow]
  simp [save, h, hp, hcommit]

/-- The run of a save. A tender without a diff fails and sends nothing. A diff with nothing
pending sends nothing and reports its confirmed followers. Otherwise exactly one follower
save is sent, with the diff's payload: its failure is the save's failure, and nothing
changes; its success replaces the tender's diff, and nothing else, by the payload folded,
and reports the size of that set and whether the acting user is in it. -/
theorem run_save_eq (s : Session) (t : Ident) :
    (s.save t).run =
      match s.store.get? t with
      | none => (.error (.follower (.unknownTender t)), [])
      | some d =>
        if d.hasPending then
          match (s.server.saveFollowers t d.payload).run with
          | (.error e, sent) => (.error e, sent)
          | (.ok _, sent) =>
            (.ok ({ submitted := true, totalFollowers := d.payload.folded.confirmed.size,
                    followedByMe := s.actingUser.any d.payload.folded.confirmed.contains },
                  { s with store := s.store.set t d.payload.folded }), sent)
        else
          (.ok ({ submitted := false, totalFollowers := d.confirmed.size,
                  followedByMe := s.actingUser.any d.confirmed.contains }, s), []) := by
  cases h : s.store.get? t with
  | none => rw [save_of_get?_none h, Exchange.run_throw]
  | some d =>
    dsimp only
    cases hp : d.hasPending with
    | false => rw [save_of_not_hasPending h hp, Exchange.run_pure, if_neg Bool.false_ne_true]
    | true =>
      rw [save_of_hasPending h hp, Exchange.run_bind_pure, if_pos rfl, d.payload_folded]
      -- the two sides split the request's outcome by matches of their own
      cases (s.server.saveFollowers t d.payload).run with
      | mk r sent => cases r <;> rfl

end Session

end Sync

end TenderClient
