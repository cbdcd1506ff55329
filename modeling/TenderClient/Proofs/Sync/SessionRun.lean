import TenderClient.Proofs.Sync.SessionReach
import TenderClient.Proofs.Follower.StoreCalls
import TenderClient.Proofs.Follower.Seed
/-!
# Runs of a session against a changing server

A program holds one session and makes calls on it: opening tenders, toggling boxes, asking
for pending changes, saving, closing, setting the favourite and seen flags, tagging and
deleting tenders. The server it talks to changes between calls (its listing changes once a
save is taken), so each call of a run is made over the network as it is at that moment,
and any call that reaches the server may succeed or fail.

A call is made on a session held in place (`Session.perform`): one that fails returns its
error and keeps the session it was made on.

What a call does to the store is read off its answer alone (`Call.onEntries`): an open that
got a listing starts the tender afresh from it, a toggle edits the tender's diff (created
empty), a save that went through commits the diff, a close and a deletion that went
through drop it, and nothing else changes any entry (`get?_perform`).

Over a whole run this refines an abstract ledger (`Ledger`) that the caller could keep
from the answers it saw: for each tender being edited, the followers the server confirmed
(by the last listing, or by the last save it took) and the followers the user has chosen
since. At every point of a run, the diff of each tender is the ledger's intent for it
(`performAll_refines`), so its confirmed followers are the server's.

The main statement is `session_entries_follow_server`.
-/

set_option autoImplicit false

namespace TenderClient

/-! ## Starting a diff from a listing -/

theorem IdSet.diff_self (s : IdSet) : s.diff s = IdSet.empty :=
  IdSet.ext fun x => by simp

namespace FollowerDiff

/-- The diff a tender starts with when it is listed: the listed followers confirmed, nothing
pending. -/
def ofListing (users : List UserRecord) : FollowerDiff :=
  { confirmed := IdSet.ofList ((users.filter (·.isFollower)).map (·.id)) }

theorem foldl_erase_empty (l : List Ident) :
    l.foldl (fun acc i => acc.erase i) IdSet.empty = IdSet.empty := by
  induction l with
  | nil => rfl
  | cons i rest ih => exact ih

/-- Marking the listed followers present on an empty diff gives the listing's diff. -/
theorem foldl_markPresent_empty (users : List UserRecord) :
    (users.filter (·.isFollower)).foldl (fun acc u => acc.markPresent u.id) empty =
      ofListing users := by
  rw [foldl_markPresent]
  simp only [empty, foldl_erase_empty]
  rfl

/-- A diff with nothing pending is its own commit. -/
theorem commit_eq_self {d : FollowerDiff} (h : d.hasPending = false) : d.commit = d := by
  obtain ⟨hadd, hrem⟩ := (hasPending_eq_false_iff d).mp h
  have heff : d.effective = d.confirmed :=
    IdSet.ext fun u => by simp [mem_effective, hadd u, hrem u]
  have hA : d.added = IdSet.empty := IdSet.ext fun u => by simp [hadd u]
  have hR : d.removed = IdSet.empty := IdSet.ext fun u => by simp [hrem u]
  rw [commit_eq, heff]
  show ({ confirmed := d.confirmed } : FollowerDiff) = ⟨d.confirmed, d.added, d.removed⟩
  rw [hA, hR]

end FollowerDiff

/-- Discarding a tender and seeding it from a listing gives it the listing's diff, whatever
it held, and leaves every other tender alone. -/
theorem FollowerStore.get?_seed_discard (s : FollowerStore) (t : Ident) (users : List UserRecord)
    (x : Ident) :
    ((s.discard t).2.seed t users).2.get? x =
      if x = t then some (FollowerDiff.ofListing users) else s.get? x := by
  rw [seed_snd, get?_update, discard_snd, get?_erase, if_pos rfl, Option.getD_none,
    FollowerDiff.foldl_markPresent_empty]
  split
  · rfl
  · next hx => rw [get?_erase, if_neg hx]

namespace Sync

open Web

/-- A call a program makes on a session. -/
inductive Call where
  | openTender (t : Ident)
  | toggle (t u : Ident) (checked : Bool)
  | hasPending (t : Ident)
  | save (t : Ident)
  | close (t : Ident)
  | setFavourite (t : Ident) (favourite : Bool)
  | setSeen (t : Ident) (seen : Bool)
  | addTag (t : Ident) (name : String)
  | deleteTender (t : Ident)

/-- What a call answers. -/
inductive Answer where
  | users (l : List UserRecord)
  | flag (b : Bool)
  | saved (o : SaveOutcome)
  | done
  | tagged (tag : TagName)
  | deleted (reply : String)

namespace Session

/-- A call as an exchange with the server: its answer and the session after it. -/
def call (s : Session) : Call → Exchange (Answer × Session)
  | .openTender t => do
    let (users, s') ← s.openTender t
    pure (.users users, s')
  | .toggle t u checked => pure (.flag (s.toggle t u checked).1, (s.toggle t u checked).2)
  | .hasPending t => pure (.flag (s.hasPending t), s)
  | .save t => do
    let (o, s') ← s.save t
    pure (.saved o, s')
  | .close t => pure (.flag (s.close t).1, (s.close t).2)
  | .setFavourite t favourite => do
    s.setFavourite t favourite
    pure (.done, s)
  | .setSeen t seen => do
    s.setSeen t seen
    pure (.done, s)
  | .addTag t name => do
    let tag ← s.addTag t name
    pure (.tagged tag, s)
  | .deleteTender t => do
    let (reply, s') ← s.deleteTender t
    pure (.deleted reply, s')

/-- A call made on a session held in place, over the network as it is when the call is
made: the answer, and the session afterwards. A call that fails keeps the session it was
made on, as a method that returns early does. -/
def perform (s : Session) (net : Network) (c : Call) : Except SyncError Answer × Session :=
  match ((s.onNetwork net).call c).run.1 with
  | .ok (a, s') => (.ok a, s')
  | .error e => (.error e, s)

/-- A run of calls, each over the network of its moment: each call with its answer, and the
session at the end. -/
def performAll (s : Session) : List (Network × Call) → List (Call × Except SyncError Answer) × Session
  | [] => ([], s)
  | (net, c) :: rest =>
    let (r, s₁) := s.perform net c
    let (trace, s₂) := s₁.performAll rest
    ((c, r) :: trace, s₂)

/-! ## Calls that ask the server one thing -/

/-- A call that asks the server one thing and answers from its reply: it fails with the
server's error and keeps the session, or answers as the reply says. -/
theorem perform_of_call_eq {s : Session} {net : Network} {c : Call} {α : Type} {x : Exchange α}
    {g : α → Answer × Session} (h : (s.onNetwork net).call c = x >>= fun a => pure (g a)) :
    s.perform net c =
      match x.run.1 with
      | .ok a => (.ok (g a).1, (g a).2)
      | .error e => (.error e, s) := by
  unfold perform
  rw [h, Exchange.run_bind_pure]
  rcases x.run with ⟨r, sent⟩
  cases r <;> rfl

/-- A call that fails before it asks anything keeps the session. -/
theorem perform_of_call_eq_throw {s : Session} {net : Network} {c : Call} {e : SyncError}
    (h : (s.onNetwork net).call c = throw e) : s.perform net c = (.error e, s) := by
  unfold perform
  rw [h, Exchange.run_throw]

/-- A call that asks the server nothing answers and moves on. -/
theorem perform_of_call_eq_pure {s : Session} {net : Network} {c : Call} {a : Answer}
    {s' : Session} (h : (s.onNetwork net).call c = pure (a, s')) : s.perform net c = (.ok a, s') := by
  unfold perform
  rw [h, Exchange.run_pure]

theorem call_openTender (s : Session) (t : Ident) :
    s.call (.openTender t) = (s.server.fetchUsers t >>= fun users =>
      pure (.users users, { s with store := ((s.store.discard t).2.seed t users).2 })) := by
  simp only [call, openTender_eq, bind_assoc, pure_bind]

theorem call_deleteTender (s : Session) (t : Ident) :
    s.call (.deleteTender t) = (s.server.deleteTender t >>= fun reply =>
      pure (.deleted reply, { s with store := (s.store.discard t).2 })) := by
  simp only [call, deleteTender_eq, bind_assoc, pure_bind]

/-- The answer of a save that went through, on a diff with changes pending. -/
def submittedOutcome (s : Session) (d : FollowerDiff) : SaveOutcome :=
  { submitted := true, totalFollowers := d.commit.confirmed.size,
    followedByMe := s.actingUser.any d.commit.confirmed.contains }

theorem call_save_of_hasPending {s : Session} {t : Ident} {d : FollowerDiff}
    (h : s.store.get? t = some d) (hp : d.hasPending = true) :
    s.call (.save t) = (s.server.saveFollowers t d.payload >>= fun _ =>
      pure (.saved (s.submittedOutcome d), { s with store := s.store.set t d.commit })) := by
  simp only [call, save_of_hasPending h hp, bind_assoc, pure_bind]
  rfl

end Session

/-! ## What a call does to the store -/

/-- What a call that answered `r` does to the entries of the store: an open that got a
listing starts the tender afresh from it, a toggle edits the tender's diff (created empty
when it has none), a save that went through commits the diff, a close and a deletion that
went through drop it. Every other call, and every call that failed, leaves the entries as
they were. -/
def Call.onEntries : Call → Except SyncError Answer → (Ident → Option FollowerDiff) →
    Ident → Option FollowerDiff
  | .openTender t, .ok (.users l), e => Function.update e t (some (FollowerDiff.ofListing l))
  | .toggle t u checked, .ok _, e =>
    Function.update e t (some (((e t).getD .empty).toggle u checked))
  | .save t, .ok _, e => Function.update e t ((e t).map FollowerDiff.commit)
  | .close t, .ok _, e => Function.update e t none
  | .deleteTender t, .ok _, e => Function.update e t none
  | _, _, e => e

/-- A call that failed changes no entry. -/
theorem Call.onEntries_error (c : Call) (err : SyncError) (e : Ident → Option FollowerDiff) :
    c.onEntries (.error err) e = e := by
  cases c <;> rfl

namespace Session

/-- A save commits the tender's diff once the server took it, or at once when nothing is
pending, and leaves the entries as they were when it fails. -/
theorem get?_perform_save (s : Session) (net : Network) (t : Ident) :
    (s.perform net (.save t)).2.store.get? =
      (Call.save t).onEntries (s.perform net (.save t)).1 s.store.get? := by
  cases hd : s.store.get? t with
  | none =>
    -- no diff: the save fails before it asks anything
    have hd' : (s.onNetwork net).store.get? t = none := by rw [onNetwork_store, hd]
    have hcall : (s.onNetwork net).call (.save t) = throw (.follower (.unknownTender t)) := by
      simp only [call, save_of_get?_none hd']
      rfl
    rw [perform_of_call_eq_throw hcall, Call.onEntries_error]
  | some d =>
    cases hp : d.hasPending with
    | false =>
      -- nothing pending: the save answers at once and the diff is its own commit
      have hd' : (s.onNetwork net).store.get? t = some d := by rw [onNetwork_store, hd]
      have hcall : (s.onNetwork net).call (.save t) =
          pure (.saved { submitted := false, totalFollowers := d.confirmed.size,
                         followedByMe := s.actingUser.any d.confirmed.contains },
            s.onNetwork net) := by
        simp only [call, save_of_not_hasPending hd' hp, pure_bind, onNetwork_actingUser]
      rw [perform_of_call_eq_pure hcall]
      funext x
      simp only [Call.onEntries, Function.update_apply, onNetwork_store, hd, Option.map_some,
        FollowerDiff.commit_eq_self hp]
      split
      · next hx => rw [hx, hd]
      · rfl
    | true =>
      have hd' : (s.onNetwork net).store.get? t = some d := by rw [onNetwork_store, hd]
      rw [perform_of_call_eq (call_save_of_hasPending hd' hp)]
      cases ((s.onNetwork net).server.saveFollowers t d.payload).run.1 with
      | error err => rfl
      | ok _ =>
        funext x
        simp only [Call.onEntries, Function.update_apply, hd, Option.map_some, onNetwork_store]
        exact FollowerStore.get?_set s.store t x d.commit

/-- The entries after a call are what its answer says of the entries before. -/
theorem get?_perform (s : Session) (net : Network) (c : Call) :
    (s.perform net c).2.store.get? = c.onEntries (s.perform net c).1 s.store.get? := by
  cases c with
  | openTender t =>
    rw [perform_of_call_eq (call_openTender _ t)]
    cases ((s.onNetwork net).server.fetchUsers t).run.1 with
    | error err => rfl
    | ok users =>
      funext x
      simp only [Call.onEntries, Function.update_apply]
      exact FollowerStore.get?_seed_discard s.store t users x
  | toggle t u checked =>
    rw [perform_of_call_eq_pure rfl]
    funext x
    simp only [Call.onEntries, Function.update_apply, toggle_snd_store, onNetwork_store,
      FollowerStore.toggle_eq]
    exact FollowerStore.get?_update s.store t x _
  | hasPending t => rw [perform_of_call_eq_pure rfl]; rfl
  | save t => exact get?_perform_save s net t
  | close t =>
    rw [perform_of_call_eq_pure rfl]
    funext x
    simp only [Call.onEntries, Function.update_apply, close_snd_store, onNetwork_store,
      FollowerStore.discard_snd]
    exact FollowerStore.get?_erase s.store t x
  | setFavourite t favourite =>
    rw [perform_of_call_eq (g := fun _ => (.done, s.onNetwork net)) rfl]
    cases ((s.onNetwork net).setFavourite t favourite).run.1 <;> rfl
  | setSeen t seen =>
    rw [perform_of_call_eq (g := fun _ => (.done, s.onNetwork net)) rfl]
    cases ((s.onNetwork net).setSeen t seen).run.1 <;> rfl
  | addTag t name =>
    rw [perform_of_call_eq (g := fun tag => (.tagged tag, s.onNetwork net)) rfl]
    cases ((s.onNetwork net).addTag t name).run.1 <;> rfl
  | deleteTender t =>
    rw [perform_of_call_eq (call_deleteTender _ t)]
    cases ((s.onNetwork net).server.deleteTender t).run.1 with
    | error err => rfl
    | ok reply =>
      funext x
      simp only [Call.onEntries, Function.update_apply, onNetwork_store, FollowerStore.discard_snd]
      exact FollowerStore.get?_erase s.store t x

/-! ## What a call answers -/

/-- An open answers the listing exactly as the server sent it, or fails with the server's
error. -/
theorem perform_openTender_fst (s : Session) (net : Network) (t : Ident) :
    (s.perform net (.openTender t)).1 = ((s.onNetwork net).server.fetchUsers t).run.1.map .users := by
  rw [perform_of_call_eq (call_openTender _ t)]
  cases ((s.onNetwork net).server.fetchUsers t).run.1 <;> rfl

/-- A deletion answers the server's reply, or fails with its error. -/
theorem perform_deleteTender_fst (s : Session) (net : Network) (t : Ident) :
    (s.perform net (.deleteTender t)).1 =
      ((s.onNetwork net).server.deleteTender t).run.1.map .deleted := by
  rw [perform_of_call_eq (call_deleteTender _ t)]
  cases ((s.onNetwork net).server.deleteTender t).run.1 <;> rfl

theorem perform_setFavourite_fst (s : Session) (net : Network) (t : Ident) (favourite : Bool) :
    (s.perform net (.setFavourite t favourite)).1 =
      ((s.onNetwork net).server.setFavourite t favourite).run.1.map fun _ => .done := by
  rw [perform_of_call_eq (x := (s.onNetwork net).server.setFavourite t favourite)
    (g := fun _ => (.done, s.onNetwork net)) rfl]
  cases ((s.onNetwork net).server.setFavourite t favourite).run.1 <;> rfl

theorem perform_setSeen_fst (s : Session) (net : Network) (t : Ident) (seen : Bool) :
    (s.perform net (.setSeen t seen)).1 =
      ((s.onNetwork net).server.setSeen t seen).run.1.map fun _ => .done := by
  rw [perform_of_call_eq (x := (s.onNetwork net).server.setSeen t seen)
    (g := fun _ => (.done, s.onNetwork net)) rfl]
  cases ((s.onNetwork net).server.setSeen t seen).run.1 <;> rfl

/-- A tag with a name that is not blank is sent as the trimmed name; the answer is that
name, or the server's error. -/
theorem perform_addTag_fst (s : Session) (net : Network) (t : Ident) {name : String}
    {tag : TagName} (h : TagName.ofString name = .ok tag) :
    (s.perform net (.addTag t name)).1 =
      ((s.onNetwork net).server.addTag t tag).run.1.map fun _ => .tagged tag := by
  have hcall : (s.onNetwork net).call (.addTag t name) =
      ((s.onNetwork net).server.addTag t tag >>= fun _ => pure (.tagged tag, s.onNetwork net)) := by
    simp only [call, addTag, h, bind_assoc, pure_bind]
  rw [perform_of_call_eq hcall]
  cases ((s.onNetwork net).server.addTag t tag).run.1 <;> rfl

/-- A save with changes pending sends the diff's payload, and answers from the committed
diff or fails with the server's error. -/
theorem perform_save_fst {s : Session} (net : Network) {t : Ident} {d : FollowerDiff}
    (h : s.store.get? t = some d) (hp : d.hasPending = true) :
    (s.perform net (.save t)).1 =
      ((s.onNetwork net).server.saveFollowers t d.payload).run.1.map
        fun _ => .saved (s.submittedOutcome d) := by
  have hd' : (s.onNetwork net).store.get? t = some d := by rw [onNetwork_store, h]
  rw [perform_of_call_eq (call_save_of_hasPending hd' hp)]
  cases ((s.onNetwork net).server.saveFollowers t d.payload).run.1 <;> rfl

/-- A close answers whether the tender had a diff. -/
theorem perform_close_fst (s : Session) (net : Network) (t : Ident) :
    (s.perform net (.close t)).1 = .ok (.flag (s.store.get? t).isSome) := by
  rw [perform_of_call_eq_pure rfl]
  rfl

theorem performAll_cons (s : Session) (net : Network) (c : Call) (rest : List (Network × Call)) :
    s.performAll ((net, c) :: rest) =
      ((c, (s.perform net c).1) :: ((s.perform net c).2.performAll rest).1,
        ((s.perform net c).2.performAll rest).2) := rfl

end Session

/-! ## The ledger a caller could keep -/

/-- What a caller knows of a tender it edits: the followers the server confirmed, by the
last listing or the last save it took, and the followers the user has chosen since. -/
structure Intent where
  confirmed : IdSet
  chosen : IdSet

namespace Intent

/-- A tender first touched by a toggle: nobody confirmed, nobody chosen. -/
def fresh : Intent := ⟨IdSet.empty, IdSet.empty⟩

/-- A tender as the server lists it: its followers are confirmed and chosen. -/
def listed (users : List UserRecord) : Intent :=
  let followers := IdSet.ofList ((users.filter (·.isFollower)).map (·.id))
  ⟨followers, followers⟩

/-- One box checked or unchecked. -/
def tick (i : Intent) (u : Ident) (checked : Bool) : Intent :=
  { i with chosen := if checked then i.chosen.insert u else i.chosen.erase u }

/-- The choice, once the server took it, is what it confirms. -/
def settled (i : Intent) : Intent := ⟨i.chosen, i.chosen⟩

/-- The diff that records an intent: the chosen users not confirmed are to be added, the
confirmed users not chosen are to be removed. -/
def diff (i : Intent) : FollowerDiff :=
  { confirmed := i.confirmed, added := i.chosen.diff i.confirmed,
    removed := i.confirmed.diff i.chosen }

/-! The diff of an intent follows each step of it. -/

theorem diff_fresh : fresh.diff = FollowerDiff.empty := by
  simp only [diff, fresh, IdSet.diff_self]
  rfl

theorem diff_listed (users : List UserRecord) :
    (listed users).diff = FollowerDiff.ofListing users := by
  simp only [diff, listed, IdSet.diff_self]
  rfl

/-- Ticking a box of an intent toggles its diff, in each of the toggle's four branches. -/
theorem diff_tick (i : Intent) (u : Ident) (checked : Bool) :
    (i.tick u checked).diff = i.diff.toggle u checked := by
  by_cases hu : u ∈ i.confirmed <;> cases checked
  · rw [FollowerDiff.toggle_uncheck_known (d := i.diff) hu]
    apply FollowerDiff.ext_mem <;> intro x <;> by_cases hx : x = u <;> simp [tick, diff, hx, hu]
  · rw [FollowerDiff.toggle_check_known (d := i.diff) hu]
    apply FollowerDiff.ext_mem <;> intro x <;> by_cases hx : x = u <;> simp [tick, diff, hx, hu]
  · rw [FollowerDiff.toggle_uncheck_new (d := i.diff) hu]
    apply FollowerDiff.ext_mem <;> intro x <;> by_cases hx : x = u <;> simp [tick, diff, hx, hu]
  · rw [FollowerDiff.toggle_check_new (d := i.diff) hu]
    apply FollowerDiff.ext_mem <;> intro x <;> by_cases hx : x = u <;> simp [tick, diff, hx, hu]

/-- Settling an intent commits its diff: the followers once saved are the chosen ones. -/
theorem diff_settled (i : Intent) : i.settled.diff = i.diff.commit := by
  apply FollowerDiff.ext_mem <;> intro x
  · by_cases hc : x ∈ i.confirmed <;> simp [settled, diff, FollowerDiff.commit_eq,
      FollowerDiff.mem_effective, hc]
  · simp [settled, diff, FollowerDiff.commit_eq]
  · simp [settled, diff, FollowerDiff.commit_eq]

/-- The payload of an intent's diff folds into the settled intent. -/
theorem payload_folded (i : Intent) : i.diff.payload.folded = i.settled.diff := by
  rw [FollowerDiff.payload_folded, diff_settled]

end Intent

/-- The intents of the tenders a caller edits, kept from its calls and their answers alone. -/
abbrev Ledger := Ident → Option Intent

namespace Ledger

/-- The ledger of a caller that has made no call. -/
def empty : Ledger := fun _ => none

/-- What a call that answered `r` tells the caller: a listing confirms and chooses its
followers, a toggle changes the choice (of a tender with nothing known, when it is the
first), a save that went through settles the choice, a close and a deletion that went
through forget the tender. -/
def record (L : Ledger) : Call → Except SyncError Answer → Ledger
  | .openTender t, .ok (.users l) => Function.update L t (some (Intent.listed l))
  | .toggle t u checked, .ok _ =>
    Function.update L t (some (((L t).getD .fresh).tick u checked))
  | .save t, .ok _ => Function.update L t ((L t).map Intent.settled)
  | .close t, .ok _ => Function.update L t none
  | .deleteTender t, .ok _ => Function.update L t none
  | _, _ => L

/-- The ledger after a trace of calls and their answers. -/
def replay (L : Ledger) : List (Call × Except SyncError Answer) → Ledger
  | [] => L
  | (c, r) :: rest => (L.record c r).replay rest

/-- The diffs a ledger stands for. -/
def diffs (L : Ledger) : Ident → Option FollowerDiff := fun t => (L t).map Intent.diff

theorem diffs_update (L : Ledger) (t : Ident) (v : Option Intent) :
    diffs (Function.update L t v) = Function.update L.diffs t (v.map Intent.diff) := by
  funext x
  simp only [diffs, Function.update_apply]
  split <;> rfl

/-- The diff a toggle starts from is the diff of the intent it starts from. -/
theorem getD_diffs (L : Ledger) (t : Ident) :
    ((L t).getD .fresh).diff = (L.diffs t).getD .empty := by
  simp only [diffs]
  cases L t with
  | none => exact Intent.diff_fresh
  | some i => rfl

/-- What the answer of a call tells the ledger is what it does to the store, through the
diffs of the intents. -/
theorem diffs_record (L : Ledger) (c : Call) (r : Except SyncError Answer) :
    (L.record c r).diffs = c.onEntries r L.diffs := by
  cases r with
  | error err =>
    rw [Call.onEntries_error]
    cases c <;> rfl
  | ok a =>
    cases c with
    | openTender t =>
      cases a
      case users l =>
        simp only [record, Call.onEntries, diffs_update, Option.map_some, Intent.diff_listed]
      all_goals rfl
    | toggle t u checked =>
      simp only [record, Call.onEntries, diffs_update, Option.map_some, Intent.diff_tick,
        getD_diffs]
    | save t =>
      -- the settled intent's diff is the commit of the intent's diff
      have hv : (L t).map (Intent.diff ∘ Intent.settled) = (L.diffs t).map FollowerDiff.commit := by
        simp only [diffs]
        cases L t with
        | none => rfl
        | some i => simp only [Option.map_some, Function.comp_apply, Intent.diff_settled]
      simp only [record, Call.onEntries, diffs_update, Option.map_map, hv]
    | close t => simp only [record, Call.onEntries, diffs_update, Option.map_none]
    | deleteTender t => simp only [record, Call.onEntries, diffs_update, Option.map_none]
    | hasPending t => rfl
    | setFavourite t favourite => rfl
    | setSeen t seen => rfl
    | addTag t name => rfl

end Ledger

/-- Over a run of calls, a store that stands for a ledger's intents keeps standing for them:
each call moves the store as its answer says (`get?_perform`), and the ledger moves the
diffs the same way (`diffs_record`). -/
theorem Session.performAll_refines (s : Session) (L : Ledger) (steps : List (Network × Call))
    (h : s.store.get? = L.diffs) :
    (s.performAll steps).2.store.get? = (L.replay (s.performAll steps).1).diffs := by
  induction steps generalizing s L with
  | nil => exact h
  | cons step rest ih =>
    obtain ⟨net, c⟩ := step
    have hstep : (s.perform net c).2.store.get? = (L.record c (s.perform net c).1).diffs := by
      rw [Session.get?_perform, h, Ledger.diffs_record]
    rw [Session.performAll_cons]
    exact ih _ _ hstep

/-- A session's store follows what the server said, call by call and over whole runs.

For any session, network and call, the entries afterwards are what the call's answer says
of the entries before (`Call.onEntries`): a call that failed, a flag, a tag and a question
about pending changes change nothing; an open that got a listing gives its tender the
listing's followers, confirmed, with nothing pending, whatever it held; a close, and a
deletion that went through, drop exactly their tender; no call touches another tender. An
open answers the listing as the server sent it, or fails with the server's error, and so do
a deletion, the flags, a tag whose name is not blank, and a save with changes pending,
which sends its diff's payload. A close answers whether its tender had a diff.

Over every run of calls from a new session, each call over the network of its moment, each
tender's diff is the diff of the caller's ledger, kept from the answers alone: its confirmed
followers are those of its last listing (none, when a toggle created it), with the payload of
every save the server took since folded in. -/
theorem session_entries_follow_server :
    (∀ (s : Session) (net : Network) (c : Call),
      (s.perform net c).2.store.get? = c.onEntries (s.perform net c).1 s.store.get?) ∧
    (∀ (s : Session) (net : Network) (t : Ident),
      (s.perform net (.openTender t)).1 = ((s.onNetwork net).server.fetchUsers t).run.1.map .users) ∧
    (∀ (s : Session) (net : Network) (t : Ident),
      (s.perform net (.deleteTender t)).1 =
        ((s.onNetwork net).server.deleteTender t).run.1.map .deleted) ∧
    (∀ (s : Session) (net : Network) (t : Ident) (favourite : Bool),
      (s.perform net (.setFavourite t favourite)).1 =
        ((s.onNetwork net).server.setFavourite t favourite).run.1.map fun _ => .done) ∧
    (∀ (s : Session) (net : Network) (t : Ident) (seen : Bool),
      (s.perform net (.setSeen t seen)).1 =
        ((s.onNetwork net).server.setSeen t seen).run.1.map fun _ => .done) ∧
    (∀ (s : Session) (net : Network) (t : Ident) (name : String) (tag : TagName),
      TagName.ofString name = .ok tag →
        (s.perform net (.addTag t name)).1 =
          ((s.onNetwork net).server.addTag t tag).run.1.map fun _ => .tagged tag) ∧
    (∀ (s : Session) (net : Network) (t : Ident) (d : FollowerDiff),
      s.store.get? t = some d → d.hasPending = true →
        (s.perform net (.save t)).1 =
          ((s.onNetwork net).server.saveFollowers t d.payload).run.1.map
            fun _ => .saved (s.submittedOutcome d)) ∧
    (∀ (s : Session) (net : Network) (t : Ident),
      (s.perform net (.close t)).1 = .ok (.flag (s.store.get? t).isSome)) ∧
    (∀ (server : Server) (actingUser : Option Ident) (steps : List (Network × Call)),
      (({ server, actingUser } : Session).performAll steps).2.store.get? =
        (Ledger.empty.replay (({ server, actingUser } : Session).performAll steps).1).diffs) ∧
    (∀ i : Intent, i.diff.payload.folded = i.settled.diff) := by
  refine ⟨Session.get?_perform, Session.perform_openTender_fst, Session.perform_deleteTender_fst,
    Session.perform_setFavourite_fst, Session.perform_setSeen_fst,
    fun s net t _ _ h => Session.perform_addTag_fst s net t h,
    fun s net _ _ h hp => Session.perform_save_fst net h hp, Session.perform_close_fst,
    fun server actingUser steps => ?_, Intent.payload_folded⟩
  -- a new session has no entry, and the empty ledger no intent
  apply Session.performAll_refines
  rfl

/-- A server that lists, for every tender, user one, not following, and user two, following,
and takes every post: a GET is answered with the listing, a POST with an empty object. -/
def listingNetwork : Network :=
  ⟨fun _ sent => .replied (match sent.method with
    | .get => ⟨200, .ok ("[\x7b\"id\":1,\"username\":\"ann\",\"is_follower\":false\x7d," ++
        "\x7b\"id\":2,\"username\":\"bob\",\"email\":\"bob@example.org\",\"is_follower\":true\x7d]")⟩
    | .post => ⟨200, .ok "\x7b\x7d"⟩)⟩

/-- A session opened on a network that reaches nothing, acting for user three, with user
three checked on tender one: over a server that takes every post, saving tender one sends
the diff and answers that it was submitted, with one follower, the acting user; a tag name
padded with an ideographic space and a tab is added as the tag `urgent`. -/
theorem session_save_and_tag_over_listing_network :
    let one : Ident := ⟨1, by decide, by decide⟩
    let three : Ident := ⟨3, by decide, by decide⟩
    let server : Server := ⟨{ baseUrl := "http://[::1]" }, Network.unreachable⟩
    let s : Session := (({ server, actingUser := some three } : Session).toggle one three true).2
    let d : FollowerDiff := FollowerDiff.empty.toggle three true
    (s.store.get? one = some d ∧ d.hasPending = true ∧
      (s.perform listingNetwork (.save one)).1 = .ok (.saved ⟨true, 1, true⟩)) ∧
    ∃ tag : TagName, tag.text = "urgent" ∧ TagName.ofString "\u3000urgent\t" = .ok tag ∧
      (s.perform listingNetwork (.addTag one "\u3000urgent\t")).1 = .ok (.tagged tag) := by
  intro one three server s d
  obtain ⟨-, -, -, -, -, haddTag, hsave, -, -, -⟩ := session_entries_follow_server
  -- the toggle gave tender one its diff, with user three checked
  have hget : s.store.get? one = some d := by
    simp only [s, Session.toggle_snd_store, FollowerStore.toggle_eq, FollowerStore.get?_update]
    rfl
  have hpending : d.hasPending = true := by decide
  -- the server takes the post of the payload, and the commit confirms user three
  have hposted : ((s.onNetwork listingNetwork).server.saveFollowers one d.payload).run.1 = .ok () := by
    dsimp only [s, server, one, three, d]
    decide +kernel
  have houtcome : s.submittedOutcome d = ⟨true, 1, true⟩ := by
    dsimp only [s, server, one, three, d]
    decide +kernel
  -- the padded name makes the tag of its trimmed text, and the server takes its post
  have htrim : Text.trimBlank "\u3000urgent\t" = "urgent" := by decide
  have hne : Text.trimBlank "\u3000urgent\t" ≠ "" := by rw [htrim]; decide
  let tag : TagName := ⟨"urgent", by decide, by decide⟩
  have hof : TagName.ofString "\u3000urgent\t" = .ok tag := by
    unfold TagName.ofString
    rw [dif_neg hne]
    congr 1
  have htagged : ((s.onNetwork listingNetwork).server.addTag one tag).run.1 = .ok () := by
    dsimp only [s, server, one, three, tag]
    decide +kernel
  refine ⟨⟨hget, hpending, ?_⟩, tag, rfl, hof, ?_⟩
  · rw [hsave s listingNetwork one d hget hpending, hposted, houtcome]
    rfl
  · rw [haddTag s listingNetwork one _ tag hof, htagged]
    rfl

end Sync

end TenderClient
