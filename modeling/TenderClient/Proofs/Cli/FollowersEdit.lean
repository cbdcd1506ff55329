import TenderClient.Cli.Run
import TenderClient.Proofs.Sync.SessionRun
import TenderClient.Proofs.Sync.Requests
import TenderClient.Proofs.Json.PayloadText
/-!
# Editing followers from the command line

`followers edit <t> --add A --remove R` reads the listing of tender `t`, checks the added
users, unchecks the removed ones, and saves the result in one request. With `S` the
followers the listing names, the diff it saves is `S` confirmed, `A \ S` to add and
`R ∩ S` to remove (`editDiff`), whatever order the users were given in: the checks of the
command line keep `A` and `R` apart, so no user is toggled both ways.

So the command has nothing to send exactly when `A ⊆ S` and `R` misses `S`; otherwise it
sends that diff's payload once (or prints it, on a dry run), and once the server took it
reports the size of `(S ∪ A) \ R` and whether the configured user is in it.

The main statement is `followers_edit_sends_one_batch`.
-/

set_option autoImplicit false

namespace TenderClient

/-- The members of `s` that are in `t`. -/
def IdSet.inter (s t : IdSet) : IdSet := ⟨s.toList.filter t.contains, s.sorted.filter _⟩

@[simp] theorem IdSet.mem_inter (s t : IdSet) (x : Ident) : x ∈ s.inter t ↔ x ∈ s ∧ x ∈ t := by
  simp [IdSet.inter, IdSet.mem_iff, IdSet.contains]

namespace FollowerDiff

/-! ## Toggling many boxes one way -/

theorem mem_added_toggle (d : FollowerDiff) (u x : Ident) (checked : Bool) :
    x ∈ (d.toggle u checked).added ↔
      if x = u ∧ u ∉ d.confirmed then checked = true else x ∈ d.added := by
  by_cases hu : u ∈ d.confirmed <;> cases checked
  · rw [toggle_uncheck_known hu]
    simp [hu]
  · rw [toggle_check_known hu]
    simp [hu]
  · rw [toggle_uncheck_new hu]
    by_cases hx : x = u <;> simp [hx, hu]
  · rw [toggle_check_new hu]
    by_cases hx : x = u <;> simp [hx, hu]

theorem mem_removed_toggle (d : FollowerDiff) (u x : Ident) (checked : Bool) :
    x ∈ (d.toggle u checked).removed ↔
      if x = u ∧ u ∈ d.confirmed then checked = false else x ∈ d.removed := by
  by_cases hu : u ∈ d.confirmed <;> cases checked
  · rw [toggle_uncheck_known hu]
    by_cases hx : x = u <;> simp [hx, hu]
  · rw [toggle_check_known hu]
    by_cases hx : x = u <;> simp [hx, hu]
  · rw [toggle_uncheck_new hu]
    simp [hu]
  · rw [toggle_check_new hu]
    simp [hu]

/-- Toggling a list of users the same way: each listed user lands in the pending set the
toggle's branch for them chooses; the others keep their place. -/
theorem mem_foldl_toggle (d : FollowerDiff) (l : List Ident) (checked : Bool) (x : Ident) :
    (x ∈ (l.foldl (fun d u => d.toggle u checked) d).added ↔
      if x ∈ l ∧ x ∉ d.confirmed then checked = true else x ∈ d.added) ∧
    (x ∈ (l.foldl (fun d u => d.toggle u checked) d).removed ↔
      if x ∈ l ∧ x ∈ d.confirmed then checked = false else x ∈ d.removed) := by
  induction l generalizing d with
  | nil => simp
  | cons u rest ih =>
    -- the toggle of `u` comes first and keeps the confirmed set the rest sees
    rw [List.foldl_cons, (ih (d.toggle u checked)).1, (ih (d.toggle u checked)).2,
      toggle_confirmed, mem_added_toggle, mem_removed_toggle]
    by_cases hx : x = u
    · subst hx
      by_cases hc : x ∈ d.confirmed <;> simp [hc]
    · simp [hx]

theorem foldl_toggle_confirmed (d : FollowerDiff) (l : List Ident) (checked : Bool) :
    (l.foldl (fun d u => d.toggle u checked) d).confirmed = d.confirmed := by
  induction l generalizing d with
  | nil => rfl
  | cons u rest ih => rw [List.foldl_cons, ih, toggle_confirmed]

/-! ## The diff an edit saves -/

/-- The diff of an edit from a listing with followers `S`: the added users not following
yet are to be added, the removed users who follow are to be removed. -/
def editDiff (S adds removes : IdSet) : FollowerDiff :=
  { confirmed := S, added := adds.diff S, removed := removes.inter S }

/-- Checking the added users and then unchecking the removed ones, on a diff with nothing
pending, gives the edit's diff from its confirmed followers, when no user is both added and
removed. -/
theorem toggle_adds_removes (d : FollowerDiff) (hadd : ∀ x, x ∉ d.added)
    (hrem : ∀ x, x ∉ d.removed) (adds removes : List Ident) (hdisj : ∀ u ∈ adds, u ∉ removes) :
    removes.foldl (fun d u => d.toggle u false) (adds.foldl (fun d u => d.toggle u true) d) =
      editDiff d.confirmed (IdSet.ofList adds) (IdSet.ofList removes) := by
  apply ext_mem <;> intro x
  · rw [foldl_toggle_confirmed, foldl_toggle_confirmed]
    rfl
  · rw [(mem_foldl_toggle _ _ _ x).1, (mem_foldl_toggle _ _ _ x).1, foldl_toggle_confirmed]
    have hx : x ∈ adds → x ∉ removes := hdisj x
    by_cases ha : x ∈ adds <;> by_cases hc : x ∈ d.confirmed <;>
      simp [ha, hc, hx, hadd x, editDiff]
  · rw [(mem_foldl_toggle _ _ _ x).2, (mem_foldl_toggle _ _ _ x).2, foldl_toggle_confirmed]
    by_cases hr : x ∈ removes <;> by_cases hc : x ∈ d.confirmed <;>
      simp [hr, hc, hrem x, editDiff]

/-- An edit has nothing to save exactly when every added user follows already and no
removed user does. -/
theorem editDiff_hasPending_eq_false_iff (S adds removes : IdSet) :
    (editDiff S adds removes).hasPending = false ↔ (∀ u ∈ adds, u ∈ S) ∧ ∀ u ∈ removes, u ∉ S := by
  rw [hasPending_eq_false_iff]
  simp [editDiff]

/-- Once saved, an edit's followers are the listed and added users less the removed ones. -/
theorem editDiff_effective (S adds removes : IdSet) (hdisj : ∀ u ∈ adds, u ∉ removes) :
    (editDiff S adds removes).effective = (S.union adds).diff removes := by
  apply IdSet.ext
  intro x
  have hx : x ∈ adds → x ∉ removes := hdisj x
  by_cases hS : x ∈ S
  · simp [editDiff, mem_effective, hS]
  · by_cases ha : x ∈ adds <;> simp [editDiff, mem_effective, hS, ha, hx]

end FollowerDiff

/-- Whether every member of a set passes a test is decided on its list. -/
instance IdSet.decidableBAll (s : IdSet) (P : Ident → Prop) [DecidablePred P] :
    Decidable (∀ u ∈ s, P u) :=
  inferInstanceAs (Decidable (∀ u ∈ s.toList, P u))

namespace Cli

open Sync

/-! ## Carrying out a command -/

/-- A command carried out from a console: its result, and the console afterwards. -/
def Run.exec {α : Type} (x : Run α) (c : Console) : Except Failure α × Console :=
  (ExceptT.run x).run c

/-- A command followed by another: the second starts from the console the first left,
unless the first failed. -/
theorem Run.exec_bind {α β : Type} (x : Run α) (g : α → Run β) (c : Console) :
    (x >>= g).exec c =
      match x.exec c with
      | (.ok a, c') => (g a).exec c'
      | (.error f, c') => (.error f, c') := by
  simp only [Run.exec, ExceptT.run_bind, StateT.run_bind]
  rcases (ExceptT.run x).run c with ⟨r, c'⟩
  cases r <;> rfl

theorem Run.exec_warn (line : String) (c : Console) :
    (warn line).exec c = (.ok (), { c with err := c.err ++ line ++ "\n" }) := rfl

/-- A session step records the requests it sent, and fails with its error in the step's
context. -/
theorem Run.exec_talk {α : Type} (context : String) (x : Exchange α) (c : Console) :
    (talk context x).exec c =
      (x.run.1.mapError fun e => Failure.within context (syncChain e),
        { c with sent := c.sent ++ x.run.2 }) := by
  unfold talk
  rcases x.run with ⟨r, sent⟩
  cases r <;> rfl

/-- Warning about some of a list of users prints on standard error only, and never fails. -/
theorem Run.exec_forIn_warn (l : List Ident) (cond : Ident → Bool) (msg : Ident → String)
    (c : Console) :
    ∃ err, (forIn l PUnit.unit fun u _ =>
      if cond u = true then do
        warn (msg u)
        pure (ForInStep.yield PUnit.unit)
      else pure (ForInStep.yield PUnit.unit) : Run PUnit).exec c =
        (.ok PUnit.unit, { c with err := err }) := by
  induction l generalizing c with
  | nil => exact ⟨c.err, rfl⟩
  | cons u rest ih =>
    rw [List.forIn_cons, Run.exec_bind]
    by_cases hu : cond u = true
    · -- a warning line, then the rest from the console it left
      obtain ⟨err, h⟩ := ih { c with err := c.err ++ msg u ++ "\n" }
      refine ⟨err, ?_⟩
      rw [if_pos hu, Run.exec_bind, Run.exec_warn]
      exact h
    · obtain ⟨err, h⟩ := ih c
      refine ⟨err, ?_⟩
      rw [if_neg hu]
      exact h

/-! ## The checks of the command line -/

/-- Identifiers in ascending order without repeats are the list of their set. -/
theorem ascending_eq (l : List Ident) : ascending l = (IdSet.ofList l).toList := rfl

theorem mem_ascending (l : List Ident) (x : Ident) : x ∈ ascending l ↔ x ∈ l := by
  rw [ascending_eq, ← IdSet.mem_iff, IdSet.mem_ofList]

/-- No user of one list is found in the other exactly when the lists share no user. -/
theorem find?_ascending_eq_none_iff (a r : List Ident) :
    (ascending a).find? (ascending r).contains = none ↔ ∀ u ∈ a, u ∉ r := by
  rw [List.find?_eq_none]
  constructor
  · intro h u ha hr
    have hu := h u ((mem_ascending _ u).mpr ha)
    simp [mem_ascending, hr] at hu
  · intro h u hu
    have hr := h u ((mem_ascending _ u).mp hu)
    simp [mem_ascending, hr]

theorem isEmpty_ascending_eq_false {l : List Ident} (h : l ≠ []) :
    (ascending l).isEmpty = false := by
  obtain ⟨x, hx⟩ := List.exists_mem_of_ne_nil _ h
  exact List.isEmpty_eq_false_iff_exists_mem.mpr ⟨x, (mem_ascending _ x).mpr hx⟩

/-- An edit that adds and removes a user, or names nobody, fails before anything is sent
or printed. -/
theorem followersEdit_refused (s : Setting) (p : Parsed) (t : Ident) (c : Console)
    (h : (∃ u, u ∈ p.idents "add" ∧ u ∈ p.idents "remove") ∨
      (p.idents "add" = [] ∧ p.idents "remove" = [])) :
    ∃ f, (followersEdit s p t).exec c = (.error f, c) := by
  unfold followersEdit
  dsimp only
  cases hfind : (ascending (p.idents "add")).find? (ascending (p.idents "remove")).contains with
  | some both => exact ⟨_, rfl⟩
  | none =>
    -- no user is in both lists, so neither list names anybody
    have hnone : ¬ ∃ u, u ∈ p.idents "add" ∧ u ∈ p.idents "remove" := by
      rintro ⟨u, ha, hr⟩
      exact (find?_ascending_eq_none_iff _ _).mp hfind u ha hr
    obtain ⟨ha, hr⟩ := h.resolve_left hnone
    simp only [ha, hr]
    exact ⟨_, rfl⟩

/-! ## Opening a session -/

/-- A command that leaves the console as it found it: it prints nothing, sends nothing and
writes no file. -/
def Run.KeepsConsole {α : Type} (x : Run α) : Prop := ∀ c, (x.exec c).2 = c

theorem Run.keepsConsole_pure {α : Type} (a : α) : Run.KeepsConsole (pure a : Run α) :=
  fun _ => rfl

theorem Run.keepsConsole_throw {α : Type} (f : Failure) : Run.KeepsConsole (throw f : Run α) :=
  fun _ => rfl

theorem Run.keepsConsole_get : Run.KeepsConsole (get : Run Console) := fun _ => rfl

theorem Run.keepsConsole_bind {α β : Type} {x : Run α} {g : α → Run β} (hx : x.KeepsConsole)
    (hg : ∀ a, (g a).KeepsConsole) : (x >>= g).KeepsConsole := by
  intro c
  rw [Run.exec_bind]
  rcases h : x.exec c with ⟨r, c'⟩
  have hc : c' = c := by rw [← hx c, h]
  subst hc
  cases r with
  | ok a => exact hg a c'
  | error f => rfl

/-- Reading the connection settings only reads the configuration file. -/
theorem connection_keepsConsole (s : Setting) (p : Parsed) : (connection s p).KeepsConsole := by
  unfold connection
  refine Run.keepsConsole_bind Run.keepsConsole_get fun st => ?_
  extract_lets file baseUrl check
  -- every way of loading the configuration ends in the same check of the settings
  have hcheck : ∀ loaded, (check loaded).KeepsConsole := by
    intro loaded
    simp only [check]
    split
    · exact Run.keepsConsole_pure _
    · exact Run.keepsConsole_throw _
  split
  · exact Run.keepsConsole_bind (Run.keepsConsole_pure _) hcheck
  · simp only [baseUrl]
    split
    · split
      · exact Run.keepsConsole_bind (Run.keepsConsole_pure _) hcheck
      · exact Run.keepsConsole_bind (Run.keepsConsole_throw _) hcheck
    · exact Run.keepsConsole_bind (Run.keepsConsole_throw _) hcheck
  · exact Run.keepsConsole_bind (Run.keepsConsole_throw _) hcheck

theorem openSession_keepsConsole (s : Setting) (p : Parsed) : (openSession s p).KeepsConsole :=
  Run.keepsConsole_bind (connection_keepsConsole s p) fun _ => Run.keepsConsole_pure _

/-- The session the settings give acts for the configured user. -/
theorem openSession_actingUser {s : Setting} {p : Parsed} {c c' : Console} {session : Session}
    (h : (openSession s p).exec c = (.ok session, c')) :
    session.actingUser = session.server.config.userId := by
  unfold openSession at h
  rw [Run.exec_bind] at h
  rcases hc : (connection s p).exec c with ⟨r, c₁⟩
  rw [hc] at h
  cases r with
  | error f => cases h
  | ok cfg =>
    cases h
    rfl

/-- A connection that is made opens a session on its configuration, over the setting's
network and acting for the configured user, and leaves the console as it was. -/
theorem openSession_exec_of_connection {s : Setting} {p : Parsed} {c : Console} {cfg : ClientConfig}
    (h : ((connection s p).exec c).1 = .ok cfg) :
    (openSession s p).exec c =
      (.ok { server := { config := cfg, network := s.network }, actingUser := cfg.userId }, c) := by
  unfold openSession
  rw [Run.exec_bind]
  rcases hc : (connection s p).exec c with ⟨r, c₁⟩
  have hc₁ : c₁ = c := by rw [← connection_keepsConsole s p c, hc]
  rw [hc] at h
  dsimp only at h
  subst h hc₁
  rfl

/-! ## After the listing -/

/-- Toggling a list of users one way on a tender with a diff toggles that diff, and keeps
the server and the acting user. -/
theorem Session.foldl_toggle {se : Session} {t : Ident} {d : FollowerDiff}
    (h : se.store.get? t = some d) (l : List Ident) (checked : Bool) :
    (l.foldl (fun se u => (se.toggle t u checked).2) se).store.get? t =
        some (l.foldl (fun d u => d.toggle u checked) d) ∧
      (l.foldl (fun se u => (se.toggle t u checked).2) se).server = se.server ∧
      (l.foldl (fun se u => (se.toggle t u checked).2) se).actingUser = se.actingUser := by
  induction l generalizing se d with
  | nil => exact ⟨h, rfl, rfl⟩
  | cons u rest ih =>
    have hstep : (se.toggle t u checked).2.store.get? t = some (d.toggle u checked) := by
      rw [Session.toggle_snd_store, FollowerStore.toggle_eq, FollowerStore.get?_update, if_pos rfl,
        h, Option.getD_some]
    obtain ⟨hget, hserver, hacting⟩ := ih hstep
    exact ⟨hget, hserver, hacting⟩

/-- How an edit ends on a tender whose diff is `d`: with nothing pending it says so; on a dry
run it prints the payload; otherwise it sends the payload once, and reports the followers
of the committed diff and whether the acting user is one of them. -/
theorem finishEdit_exec (p : Parsed) (t : Ident) {session : Session} {d : FollowerDiff}
    (h : session.store.get? t = some d) (c : Console) :
    (finishEdit p t session).exec c =
      if d.hasPending = false then
        (.ok (), { c with out := c.out ++ ("✓ tender " ++ t.render ++
          " — followers already up to date") ++ "\n" })
      else if p.flag "dry_run" then
        (.ok (), { c with out := c.out ++ ("[dry-run] would send: " ++ d.payload.toJson.compact) ++
          "\n" })
      else
        match (session.server.saveFollowers t d.payload).run with
        | (.error e, posted) =>
          (.error (Failure.within ("failed to save followers of tender " ++ t.render)
            (syncChain e)), { c with sent := c.sent ++ posted })
        | (.ok _, posted) =>
          (.ok (), { c with
            sent := c.sent ++ posted
            out := c.out ++ ("✓ tender " ++ t.render ++ " — " ++
              Nat.repr d.commit.confirmed.size ++ " follower(s)" ++
              (if session.actingUser.any d.commit.confirmed.contains then ", including you"
                else "")) ++ "\n" }) := by
  have hpend : session.hasPending t = d.hasPending := by
    simp only [Session.hasPending, FollowerStore.hasPending, h, Option.any_some]
  unfold finishEdit
  rw [hpend]
  cases hp : d.hasPending with
  | false => rfl
  | true =>
    simp only [Bool.not_true, Bool.false_eq_true, if_false, FollowerStore.serialize_of_get? h,
      pure_bind]
    cases hdry : p.flag "dry_run" with
    | true => rfl
    | false =>
      -- the save sends the payload once; the answer is read from the committed diff
      simp only [Bool.false_eq_true, if_false]
      rw [Run.exec_bind, Run.exec_talk, Sync.Session.save_of_hasPending h hp,
        Sync.Exchange.run_bind_pure]
      rcases (session.server.saveFollowers t d.payload).run with ⟨r, posted⟩
      cases r <;> rfl

/-- An edit whose command line passes its checks opens the tender, warns about the users
the listing lacks, toggles the boxes and ends. -/
theorem followersEdit_of_checked (s : Setting) (p : Parsed) (t : Ident)
    (hfind : (ascending (p.idents "add")).find? (ascending (p.idents "remove")).contains = none)
    (hempty : ((ascending (p.idents "add")).isEmpty &&
      (ascending (p.idents "remove")).isEmpty) = false) :
    followersEdit s p t = (openSession s p >>= fun session =>
      talk ("failed to load followers of tender " ++ t.render) (session.openTender t) >>= fun x =>
      (forIn (ascending (p.idents "add") ++ ascending (p.idents "remove")) PUnit.unit fun u _ =>
        if (!x.1.any fun r => r.id == u) = true then do
          warn ("warning: user " ++ u.render ++ " is not in the server's user list")
          pure (ForInStep.yield PUnit.unit)
        else pure (ForInStep.yield PUnit.unit)) >>= fun _ =>
      finishEdit p t ((ascending (p.idents "remove")).foldl (fun se u => (se.toggle t u false).2)
        ((ascending (p.idents "add")).foldl (fun se u => (se.toggle t u true).2) x.2))) := by
  unfold followersEdit
  simp only [hfind, hempty]
  rfl

/-- Reading the ascending list of a set back gives the set of the list it came from. -/
theorem ofList_ascending (l : List Ident) : IdSet.ofList (ascending l) = IdSet.ofList l :=
  IdSet.ext fun x => by rw [IdSet.mem_ofList, IdSet.mem_ofList, mem_ascending]

/-- An edit with a valid command line, from the listing on: what it prints and sends. -/
theorem followersEdit_exec (s : Setting) (p : Parsed) (t : Ident) (c₀ : Console)
    (hdisj : ∀ u ∈ p.idents "add", u ∉ p.idents "remove")
    (hsome : p.idents "add" ≠ [] ∨ p.idents "remove" ≠ []) :
    let A := IdSet.ofList (p.idents "add")
    let R := IdSet.ofList (p.idents "remove")
    let run := (followersEdit s p t).exec c₀
    match (openSession s p).exec c₀ with
    | (.error f, _) => run = (.error f, c₀)
    | (.ok session, _) =>
      match (session.server.fetchUsers t).run with
      | (.error e, sent) =>
        run.1 = .error (Failure.within ("failed to load followers of tender " ++ t.render)
          (syncChain e)) ∧ run.2.out = c₀.out ∧ run.2.sent = c₀.sent ++ sent
      | (.ok users, sent) =>
        let S := (FollowerDiff.ofListing users).confirmed
        let P : FollowerPayload := ⟨S.toList, (A.diff S).toList, (R.inter S).toList⟩
        if (∀ u ∈ A, u ∈ S) ∧ (∀ u ∈ R, u ∉ S) then
          run.1 = .ok () ∧
          run.2.out = c₀.out ++ ("✓ tender " ++ t.render ++ " — followers already up to date") ++
            "\n" ∧
          run.2.sent = c₀.sent ++ sent
        else if p.flag "dry_run" then
          run.1 = .ok () ∧
          run.2.out = c₀.out ++ ("[dry-run] would send: " ++ P.toJson.compact) ++ "\n" ∧
          run.2.sent = c₀.sent ++ sent
        else
          match (session.server.saveFollowers t P).run with
          | (.error e, posted) =>
            run.1 = .error (Failure.within ("failed to save followers of tender " ++ t.render)
              (syncChain e)) ∧ run.2.out = c₀.out ∧ run.2.sent = c₀.sent ++ sent ++ posted
          | (.ok _, posted) =>
            run.1 = .ok () ∧
            run.2.out = c₀.out ++ ("✓ tender " ++ t.render ++ " — " ++
              Nat.repr ((S.union A).diff R).size ++ " follower(s)" ++
              (if session.server.config.userId.any ((S.union A).diff R).contains then
                ", including you" else "")) ++ "\n" ∧
            run.2.sent = c₀.sent ++ sent ++ posted := by
  intro A R run
  -- the checks of the command line pass
  have hfind := (find?_ascending_eq_none_iff _ _).mpr hdisj
  have hempty : ((ascending (p.idents "add")).isEmpty &&
      (ascending (p.idents "remove")).isEmpty) = false := by
    rcases hsome with ha | hr
    · rw [isEmpty_ascending_eq_false ha, Bool.false_and]
    · rw [isEmpty_ascending_eq_false hr, Bool.and_false]
  have hAR : ∀ u ∈ A, u ∉ R := by
    intro u hu hr
    exact hdisj u ((IdSet.mem_ofList _ u).mp hu) ((IdSet.mem_ofList _ u).mp hr)
  simp only [run]
  rw [followersEdit_of_checked s p t hfind hempty, Run.exec_bind]
  rcases hs : (openSession s p).exec c₀ with ⟨r, c₁⟩
  -- opening the session prints and sends nothing
  have hc : c₁ = c₀ := by rw [← openSession_keepsConsole s p c₀, hs]
  subst hc
  cases r with
  | error f => rfl
  | ok session =>
    have hact := openSession_actingUser hs
    simp only
    rw [Run.exec_bind, Run.exec_talk, Sync.Session.openTender_eq, Sync.Exchange.run_bind_pure]
    rcases hlist : (session.server.fetchUsers t).run with ⟨r, sent⟩
    cases r with
    | error e => exact ⟨rfl, rfl, rfl⟩
    | ok users =>
      -- the listing starts the tender afresh; the toggles then give the edit's diff
      have hdisj' : ∀ u ∈ ascending (p.idents "add"), u ∉ ascending (p.idents "remove") := by
        intro u hu hr
        exact hdisj u ((mem_ascending _ u).mp hu) ((mem_ascending _ u).mp hr)
      have h₀ : ({ session with store := ((session.store.discard t).2.seed t users).2 } :
          Session).store.get? t = some (FollowerDiff.ofListing users) := by
        rw [FollowerStore.get?_seed_discard, if_pos rfl]
      obtain ⟨h₁, hsv₁, hau₁⟩ := Session.foldl_toggle h₀ (ascending (p.idents "add")) true
      obtain ⟨h₂, hsv₂, hau₂⟩ := Session.foldl_toggle h₁ (ascending (p.idents "remove")) false
      rw [FollowerDiff.toggle_adds_removes _ (fun x => IdSet.not_mem_empty x)
        (fun x => IdSet.not_mem_empty x) _ _ hdisj', ofList_ascending, ofList_ascending] at h₂
      dsimp only [Except.mapError]
      rw [Run.exec_bind]
      obtain ⟨err, hw⟩ := Run.exec_forIn_warn (ascending (p.idents "add") ++ ascending (p.idents "remove"))
        (fun u => !users.any fun r => r.id == u)
        (fun u => "warning: user " ++ u.render ++ " is not in the server's user list")
        { c₁ with sent := c₁.sent ++ sent }
      rw [hw]
      dsimp only
      rw [finishEdit_exec p t h₂, hsv₂, hsv₁, hau₂, hau₁]
      dsimp only
      rw [hact]
      by_cases hup : (∀ u ∈ A, u ∈ (FollowerDiff.ofListing users).confirmed) ∧
          ∀ u ∈ R, u ∉ (FollowerDiff.ofListing users).confirmed
      · -- nothing to change: the command reports the followers as up to date
        have hp := (FollowerDiff.editDiff_hasPending_eq_false_iff _ A R).mpr hup
        rw [if_pos hup, if_pos hp]
        exact ⟨rfl, rfl, rfl⟩
      · have hp := mt (FollowerDiff.editDiff_hasPending_eq_false_iff _ A R).mp hup
        rw [if_neg hup, if_neg hp]
        cases hdry : p.flag "dry_run" with
        | true => exact ⟨rfl, rfl, rfl⟩
        | false =>
          have hc : (FollowerDiff.editDiff (FollowerDiff.ofListing users).confirmed A R).commit.confirmed =
              ((FollowerDiff.ofListing users).confirmed.union A).diff R := by
            rw [FollowerDiff.commit_eq]
            exact FollowerDiff.editDiff_effective _ A R hAR
          have hP : (FollowerDiff.editDiff (FollowerDiff.ofListing users).confirmed A R).payload =
              ⟨(FollowerDiff.ofListing users).confirmed.toList,
                (A.diff (FollowerDiff.ofListing users).confirmed).toList,
                (R.inter (FollowerDiff.ofListing users).confirmed).toList⟩ := rfl
          rw [if_neg Bool.false_ne_true, if_neg Bool.false_ne_true, hP]
          rcases hsave : (session.server.saveFollowers t
            ⟨(FollowerDiff.ofListing users).confirmed.toList,
              (A.diff (FollowerDiff.ofListing users).confirmed).toList,
              (R.inter (FollowerDiff.ofListing users).confirmed).toList⟩).run with ⟨r, posted⟩
          cases r with
          | error e => exact ⟨rfl, rfl, rfl⟩
          | ok _ =>
            rw [hc]
            exact ⟨rfl, rfl, rfl⟩

/-! ## The whole command -/

/-- `followers edit` on every command line and from every console. A command line that adds
and removes one user, or names nobody, fails with the console untouched, so before any
request. Otherwise, once the session is open and the listing of the tender read, with `S`
its followers: when `A ⊆ S` and `R` misses `S` the command reports the followers up to date
and sends nothing more; otherwise a dry run prints the payload `S`, `A \ S`, `R ∩ S` and
sends nothing more, and a real run saves that payload and, once the server took it, prints
the size of `(S ∪ A) \ R` and whether the configured user is in it. The listing sends only
GET requests, and the save at most one POST, of the payload, which it did send when the
server took it. -/
theorem followers_edit_sends_one_batch (s : Setting) (p : Parsed) (t : Ident) (c : Console) :
    let A := IdSet.ofList (p.idents "add")
    let R := IdSet.ofList (p.idents "remove")
    let run := (followersEdit s p t).exec c
    (((∃ u, u ∈ p.idents "add" ∧ u ∈ p.idents "remove") ∨
        (p.idents "add" = [] ∧ p.idents "remove" = [])) → ∃ f, run = (.error f, c)) ∧
    ((∀ u ∈ p.idents "add", u ∉ p.idents "remove") →
      (p.idents "add" ≠ [] ∨ p.idents "remove" ≠ []) →
      match (openSession s p).exec c with
      | (.error f, _) => run = (.error f, c)
      | (.ok session, _) =>
        match (session.server.fetchUsers t).run with
        | (.error e, sent) =>
          run.1 = .error (Failure.within ("failed to load followers of tender " ++ t.render)
            (syncChain e)) ∧ run.2.out = c.out ∧ run.2.sent = c.sent ++ sent
        | (.ok users, sent) =>
          let S := IdSet.ofList ((users.filter (·.isFollower)).map (·.id))
          let P : FollowerPayload := ⟨S.toList, (A.diff S).toList, (R.inter S).toList⟩
          if (∀ u ∈ A, u ∈ S) ∧ (∀ u ∈ R, u ∉ S) then
            run.1 = .ok () ∧
            run.2.out = c.out ++ ("✓ tender " ++ t.render ++ " — followers already up to date") ++
              "\n" ∧
            run.2.sent = c.sent ++ sent
          else if p.flag "dry_run" then
            run.1 = .ok () ∧
            run.2.out = c.out ++ ("[dry-run] would send: " ++ P.toJson.compact) ++ "\n" ∧
            run.2.sent = c.sent ++ sent
          else
            match (session.server.saveFollowers t P).run with
            | (.error e, posted) =>
              run.1 = .error (Failure.within ("failed to save followers of tender " ++ t.render)
                (syncChain e)) ∧ run.2.out = c.out ∧ run.2.sent = c.sent ++ sent ++ posted
            | (.ok _, posted) =>
              run.1 = .ok () ∧
              run.2.out = c.out ++ ("✓ tender " ++ t.render ++ " — " ++
                Nat.repr ((S.union A).diff R).size ++ " follower(s)" ++
                (if session.server.config.userId.any ((S.union A).diff R).contains then
                  ", including you" else "")) ++ "\n" ∧
              run.2.sent = c.sent ++ sent ++ posted) ∧
    (∀ server : Server, ∀ r ∈ (server.fetchUsers t).run.2, r.method = .get) ∧
    (∀ (server : Server) (P : FollowerPayload), ∃ o : Option Web.Sent,
      (server.saveFollowers t P).run.2 = o.toList ∧
      (∀ r ∈ o, r.method = .post ∧ r.body = Server.saveBody P) ∧
      ((server.saveFollowers t P).run.1 = .ok () → o.isSome)) := by
  intro A R run
  refine ⟨followersEdit_refused s p t c, fun hdisj hsome => ?_,
    fun server => Server.fetchUsers_sent server t, fun server P => Server.saveFollowers_sent server t P⟩
  exact followersEdit_exec s p t c hdisj hsome

/-- An edit of tender one that adds user three and removes user two, with no configuration
file and the base URL `http://[::1]` on the command line, over a server that lists user two
as the only follower and takes every save: the listing is read by one GET, the payload
`[2]`, `[3]`, `[2]` is saved by one POST, and the command reports one follower. -/
theorem followers_edit_saves_over_listing_network :
    let one : Ident := ⟨1, by decide, by decide⟩
    let two : Ident := ⟨2, by decide, by decide⟩
    let three : Ident := ⟨3, by decide, by decide⟩
    let s : Setting := { home := "/home/user", network := listingNetwork }
    let p : Parsed := ⟨["followers", "edit"], [("tender", [.ident one]), ("add", [.ident three]),
      ("remove", [.ident two]), ("base_url", [.text "http://[::1]"])]⟩
    let c : Console := { configFile := none }
    let run := (followersEdit s p one).exec c
    (∀ u ∈ p.idents "add", u ∉ p.idents "remove") ∧ (p.idents "add" ≠ [] ∨ p.idents "remove" ≠ []) ∧
      run.1 = .ok () ∧ run.2.out = "✓ tender 1 — 1 follower(s)\n" ∧
      run.2.sent.map (·.method) = [.get, .post] ∧
      run.2.sent.map (·.body) =
        ["", "\x7b\"new_followers\":[3],\"old_followers\":[2],\"unfollowers\":[2]\x7d"] := by
  intro one two three s p c run
  have hdisj : ∀ u ∈ p.idents "add", u ∉ p.idents "remove" := by
    dsimp only [p, one, two, three]
    decide
  have hsome : p.idents "add" ≠ [] ∨ p.idents "remove" ≠ [] := by
    dsimp only [p, one, two, three]
    decide
  have hedit := (followers_edit_sends_one_batch s p one c).2.1 hdisj hsome
  -- with no configuration file the session talks to the base URL of the command line
  have hconn : ((connection s p).exec c).1 = .ok { baseUrl := "http://[::1]" } := by
    dsimp only [s, p, c, one, two, three]
    decide +kernel
  rw [openSession_exec_of_connection hconn] at hedit
  dsimp only [s] at hedit
  -- the server lists user two as its only follower
  have hfetch : (Server.fetchUsers ⟨{ baseUrl := "http://[::1]" }, listingNetwork⟩ one).run =
      (.ok [⟨one, "ann", none, false⟩, ⟨two, "bob", some "bob@example.org", true⟩],
        [⟨.get, "/tenders/1/followers/", none, none, none, "application/json", ""⟩]) := by
    dsimp only [one, two]
    decide +kernel
  rw [hfetch] at hedit
  dsimp only at hedit
  -- user three is added and user two, a follower, is removed: there is something to save
  split at hedit
  · next hup => exact absurd hup (by dsimp only [p, one, two, three]; decide)
  split at hedit
  · next hdry => exact absurd hdry (by dsimp only [p]; decide)
  -- the server takes the save
  split at hedit
  · next e posted hpost =>
    have hfailed := congrArg (fun r => r.1.toBool) hpost
    dsimp only [Except.toBool] at hfailed
    exact absurd hfailed (by dsimp only [p, one, two, three]; decide +kernel)
  · next posted hpost =>
    obtain ⟨hok, hout, hsent⟩ := hedit
    have hposted : posted = _ := (congrArg Prod.snd hpost).symm
    refine ⟨hdisj, hsome, hok, ?_, ?_, ?_⟩
    · rw [hout]
      dsimp only [c, p, one, two, three]
      decide +kernel
    · rw [hsent, hposted]
      dsimp only [c, p, one, two, three]
      decide +kernel
    · rw [hsent, hposted]
      dsimp only [c, p, one, two, three]
      decide +kernel

end Cli

end TenderClient
