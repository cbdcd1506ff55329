import TenderClient.Proofs.Sync.Save
import TenderClient.Proofs.Text.CharBoundary
/-!
# What a request leaves on the wire

A request reaches the server at most once: `Request.send` records the request as the server
saw it exactly when the network delivered it, and a reply means it was delivered
(`send_isSome_of_ok`). A call of the server records that one request and nothing else, so
each exchange is known by the requests it can leave. Steps after the call that send nothing,
such as reading the reply's text, keep that account (`Exchange.sent_bind`):

* the follower listing leaves at most one request, a GET (`fetchUsers_sent`);
* a follower save leaves at most one request, a POST whose body is the payload in its
  alphabetical form, and a save the server took left it (`saveFollowers_sent`).

A call answers the check of what its request got (`call_run_eq`). A reply of status 400 or
more is a refusal that carries the reply's status and at most 512 bytes of its body: the
longest prefix of whole characters of the body's text, or of a note of why the body could
not be read, that fits (`refusal_reports_cut_body`).
-/

set_option autoImplicit false

namespace TenderClient

namespace Web.Request

/-- A recorded request is the request as it was sent to the URL it was parsed into. -/
theorem sentTo_of_send {net : Network} {r : Request} {sent : Sent} (hs : sent ∈ (send net r).2) :
    ∃ u, sent = r.sentTo u := by
  unfold send at hs
  cases hf : r.headers.find? (fun h => !validHeaderValue h.2) with
  | some h => rw [hf] at hs; cases hs
  | none =>
    rw [hf] at hs
    cases hu : Url.parse r.url with
    | error e => rw [hu] at hs; cases hs
    | ok u =>
      rw [hu] at hs
      dsimp only at hs
      refine ⟨u, ?_⟩
      -- only a delivery that reached the server records the request
      cases hd : net.deliver u (r.sentTo u) with
      | replied reply => rw [hd] at hs; exact (Option.mem_some_iff.mp hs).symm
      | closed => rw [hd] at hs; exact (Option.mem_some_iff.mp hs).symm
      | unreachable => rw [hd] at hs; cases hs

/-- A request that was answered was recorded. -/
theorem send_isSome_of_ok {net : Network} {r : Request} {reply : Reply}
    (h : (send net r).1 = .ok reply) : (send net r).2.isSome := by
  unfold send at h ⊢
  revert h
  cases hf : r.headers.find? (fun h => !validHeaderValue h.2) with
  | some h' => intro h; cases h
  | none =>
    cases hu : Url.parse r.url with
    | error e => intro h; cases h
    | ok u =>
      dsimp only
      cases hd : net.deliver u (r.sentTo u) with
      | replied reply => intro _; rfl
      | closed => intro h; cases h
      | unreachable => intro h; cases h

end Web.Request

namespace Sync.Server

open Web

/-- A call answers the check of what sending its request gave, and records what the send
recorded. -/
theorem call_run_eq (s : Server) (m : Method) (url : String) (hs : List (String × String))
    (body : Option (String × String)) :
    (s.call m url hs body).run =
      (check url (Request.send s.network ⟨m, url, s.baseHeaders ++ hs, body⟩).1,
        (Request.send s.network ⟨m, url, s.baseHeaders ++ hs, body⟩).2.toList) := by
  unfold call
  rcases Request.send s.network ⟨m, url, s.baseHeaders ++ hs, body⟩ with ⟨result, sent⟩
  dsimp only
  cases check url result <;> rfl

/-- A check passes only a reply, and passes it unchanged. -/
theorem check_eq_ok {url : String} {r : Except TransportError Reply} {reply : Reply}
    (h : check url r = .ok reply) : r = .ok reply := by
  cases r with
  | error e => cases h
  | ok reply' =>
    simp only [check] at h
    -- a refusal is an error, so the reply passed the status test
    by_cases hst : reply'.status ≥ 400
    · rw [if_pos hst] at h
      cases h
    · rw [if_neg hst] at h
      cases h
      rfl

/-- A call records what sending its request recorded, and succeeds only on a reply. -/
theorem call_run (s : Server) (m : Method) (url : String) (hs : List (String × String))
    (body : Option (String × String)) :
    (s.call m url hs body).run.2 =
        (Request.send s.network ⟨m, url, s.baseHeaders ++ hs, body⟩).2.toList ∧
      ∀ reply, (s.call m url hs body).run.1 = .ok reply →
        (Request.send s.network ⟨m, url, s.baseHeaders ++ hs, body⟩).1 = .ok reply := by
  rw [call_run_eq]
  exact ⟨rfl, fun _ h => check_eq_ok h⟩

/-- A call leaves at most one request, with the call's method and body, and leaves it when
the call succeeds. -/
theorem call_sent (s : Server) (m : Method) (url : String) (hs : List (String × String))
    (body : Option (String × String)) :
    ∃ o : Option Sent, (s.call m url hs body).run.2 = o.toList ∧
      (∀ r ∈ o, r.method = m ∧ r.body = (body.map (·.2)).getD "") ∧
      ∀ reply, (s.call m url hs body).run.1 = .ok reply → o.isSome := by
  obtain ⟨hsent, hok⟩ := call_run s m url hs body
  refine ⟨_, hsent, fun r hr => ?_, fun reply h => Request.send_isSome_of_ok (hok reply h)⟩
  obtain ⟨u, rfl⟩ := Request.sentTo_of_send hr
  exact ⟨rfl, rfl⟩

/-- A step followed by steps that send nothing records what the first step recorded. -/
theorem Exchange.run_bind_snd {α β : Type} (x : Exchange α) (g : α → Exchange β)
    (hg : ∀ a sent, ((ExceptT.run (g a)).run sent).2 = sent) : (x >>= g).run.2 = x.run.2 := by
  simp only [Exchange.run, ExceptT.run_bind, StateT.run_bind]
  rcases (ExceptT.run x).run [] with ⟨r, sent⟩
  cases r with
  | error e => rfl
  | ok a => exact hg a sent

/-- A step followed by others succeeds only if the first step did. -/
theorem Exchange.ok_of_run_bind {α β : Type} {x : Exchange α} {g : α → Exchange β} {b : β}
    (h : (x >>= g).run.1 = .ok b) : ∃ a, x.run.1 = .ok a := by
  revert h
  simp only [Exchange.run, ExceptT.run_bind, StateT.run_bind]
  rcases (ExceptT.run x).run [] with ⟨r, sent⟩
  cases r with
  | error e => intro h; cases h
  | ok a => intro _; exact ⟨a, rfl⟩

/-- A step that leaves at most one request, of some kind, and leaves it when it succeeds, keeps
both when steps that send nothing follow it. -/
theorem Exchange.sent_bind {α β : Type} {x : Exchange α} {g : α → Exchange β}
    (hg : ∀ a sent, ((ExceptT.run (g a)).run sent).2 = sent) {P : Sent → Prop}
    (h : ∃ o : Option Sent, x.run.2 = o.toList ∧ (∀ r ∈ o, P r) ∧
      ∀ a, x.run.1 = .ok a → o.isSome) :
    ∃ o : Option Sent, (x >>= g).run.2 = o.toList ∧ (∀ r ∈ o, P r) ∧
      ∀ b, (x >>= g).run.1 = .ok b → o.isSome := by
  obtain ⟨o, hsent, hreq, hok⟩ := h
  refine ⟨o, (Exchange.run_bind_snd x g hg).trans hsent, hreq, fun b hb => ?_⟩
  obtain ⟨a, ha⟩ := Exchange.ok_of_run_bind hb
  exact hok a ha

/-- Reading the text of a reply sends nothing. -/
theorem readText_keeps_sent (url : String) (reply : Reply) (sent : List Sent) :
    ((ExceptT.run (readText url reply)).run sent).2 = sent := by
  unfold readText
  split <;> rfl

/-- The listing records what its call recorded: reading the reply sends nothing. -/
theorem fetchUsers_run_snd (s : Server) (t : Ident) :
    (s.fetchUsers t).run.2 =
      (s.call .get (s.config.urlFor .followers t) [("Accept", "application/json")] none).run.2 := by
  unfold fetchUsers
  refine Exchange.run_bind_snd _ _ fun reply sent => ?_
  -- an unreadable body and each outcome of decoding it fail or succeed without a request
  split
  · rfl
  · split <;> rfl

/-- The listing sends GET requests only. -/
theorem fetchUsers_sent (s : Server) (t : Ident) : ∀ r ∈ (s.fetchUsers t).run.2, r.method = .get := by
  intro r hr
  obtain ⟨o, hsent, hmethod, -⟩ :=
    call_sent s .get (s.config.urlFor .followers t) [("Accept", "application/json")] none
  rw [fetchUsers_run_snd, hsent, Option.mem_toList] at hr
  exact (hmethod r hr).1

/-- A save leaves at most one request, a POST of the payload in its alphabetical form, and a
save the server took left it. -/
theorem saveFollowers_sent (s : Server) (t : Ident) (p : FollowerPayload) :
    ∃ o : Option Sent, (s.saveFollowers t p).run.2 = o.toList ∧
      (∀ r ∈ o, r.method = .post ∧ r.body = saveBody p) ∧
      ((s.saveFollowers t p).run.1 = .ok () → o.isSome) := by
  unfold saveFollowers
  refine (Exchange.sent_bind (fun reply sent => ?_)
    (call_sent s .post (s.config.urlFor .followers t) [] (some ("application/json", saveBody p)))).imp
    fun o ⟨hsent, hreq, hok⟩ => ⟨hsent, hreq, hok ()⟩
  -- reading the reply, and ending, send nothing
  unfold readText
  split <;> rfl

/-- A reply of status 400 or more is a refusal, with the reply's status and the start of its
body. -/
theorem check_refused (url : String) {reply : Reply} (h : 400 ≤ reply.status) :
    check url (.ok reply) = .error (.rejected url reply.status (errorBody reply.body)) := by
  simp only [check]
  rw [if_pos h]

open Text in
/-- A refused request is reported with the status of the reply and the longest prefix of
whole characters, at most 512 bytes, of the body's text or, when the body could not be read,
of a note saying why. The cut keeps a text that fits whole and otherwise falls short of its
limit by less than four bytes. -/
theorem refusal_reports_cut_body :
    (∀ limit s, IsLongestPrefixWithin limit s (truncateAtCharBoundary limit s)) ∧
    (∀ limit s, s.utf8ByteSize ≤ limit → truncateAtCharBoundary limit s = s) ∧
    (∀ limit s, limit < s.utf8ByteSize →
      limit < (truncateAtCharBoundary limit s).utf8ByteSize + 4) ∧
    (∀ body, IsLongestPrefixWithin 512 body (errorBody (.ok body))) ∧
    (∀ e, IsLongestPrefixWithin 512 ("<unreadable body: " ++ e ++ ">") (errorBody (.error e))) ∧
    (∀ url reply, 400 ≤ reply.status →
      check url (.ok reply) = .error (.rejected url reply.status (errorBody reply.body))) ∧
    (∀ (s : Server) m url hs body,
      (s.call m url hs body).run.1 =
        check url (Request.send s.network ⟨m, url, s.baseHeaders ++ hs, body⟩).1) :=
  ⟨truncateAtCharBoundary_longest,
    fun limit s hs => (truncateAtCharBoundary_longest limit s).eq_self hs,
    fun limit s hs => (truncateAtCharBoundary_longest limit s).lt_add_four hs,
    fun body => truncateAtCharBoundary_longest 512 body,
    fun e => truncateAtCharBoundary_longest 512 _,
    fun url _ h => check_refused url h,
    fun s m url hs body => by rw [call_run_eq]⟩

open Text in
/-- The cut at work: a short text is kept, an emoji that would cross a five-byte limit is
dropped whole, and a refusal of status 503 reports its body. -/
theorem refusal_reports_cut_body_examples :
    ("ok".utf8ByteSize ≤ 5 ∧ truncateAtCharBoundary 5 "ok" = "ok") ∧
    (5 < "ab😀cd".utf8ByteSize ∧ 5 < (truncateAtCharBoundary 5 "ab😀cd").utf8ByteSize + 4) ∧
    (400 ≤ (⟨503, .ok "down"⟩ : Reply).status ∧
      check "http://stub/tenders/1/followers/" (.ok ⟨503, .ok "down"⟩) =
        .error (.rejected "http://stub/tenders/1/followers/" 503 (errorBody (.ok "down")))) :=
  ⟨⟨by decide, refusal_reports_cut_body.2.1 5 "ok" (by decide)⟩,
    ⟨by decide, refusal_reports_cut_body.2.2.1 5 "ab😀cd" (by decide)⟩,
    ⟨by decide, refusal_reports_cut_body.2.2.2.2.2.1 _ ⟨503, .ok "down"⟩ (by decide)⟩⟩

end Sync.Server

end TenderClient
