import TenderClient.Proofs.Sync.Requests
import TenderClient.Proofs.Json.RecordRead
/-!
# Tag names along every path

A tag name is made from a text in one place, `TagName.ofString`: the blanks around the text
are dropped, and what is left is the name unless it is empty (`ofString_map_text`). The other
ways a name comes in go through it. A JSON string is read and handed to it, and its refusal
becomes the reader's error, whose message is the refusal's sentence (`run_tagName_quote`,
`message_tag`). A session adding a tag hands the text to it before anything is sent: a blank
name fails with no request (`Session.addTag_blank`), and any other is added on the server
under its trimmed name (`Session.addTag_of_ofString`), by at most one POST of the form with
that name, which a successful add did send (`Session.addTag_sent`).
-/

set_option autoImplicit false

namespace TenderClient

/-- A tag is made of a text exactly when the text is not blank, and its name is the text
without the blanks around it. -/
theorem TagName.ofString_map_text (s : String) :
    (TagName.ofString s).map TagName.text =
      if Text.trimBlank s = "" then .error .empty else .ok (Text.trimBlank s) := by
  unfold TagName.ofString
  dsimp only
  -- both sides test the same trimmed text
  split <;> rfl

namespace Json

/-- A refused tag name is reported in the refusal's own sentence. -/
theorem ReadError.message_tag (e : TagError) :
    (⟨.problem (.tag e), none⟩ : ReadError).message = e.message := by
  cases e
  rfl

namespace Reader

/-- A tag name read from a JSON string literal is the tag made of the string, and a refusal
to make it is the reader's error. -/
theorem run_tagName_quote (s : String) :
    run tagName (quote s) = (TagName.ofString s).mapError fun e => ⟨.problem (.tag e), none⟩ := by
  cases hof : TagName.ofString s with
  | ok t =>
    -- the literal reads to its string, the tag is made, and the text ends there
    have hreads : Reads tagName 0 (quote s).toUTF8 0 t (0 + (utf8 (quote s)).length) := by
      unfold tagName
      refine (string_reads s (at_utf8 _)).bind ?_
      rw [hof]
      exact Reads.pure _ _
    exact run_of_reads_utf8 (by decide) hreads
  | error e =>
    -- the literal reads to its string, and the refusal stops the reader before the end
    have hstr := string_reads s (at_utf8 (quote s)) 128 (by decide)
    unfold run tagName
    dsimp only
    rw [bind_assoc, Runs.run_bind hstr, hof]
    rfl

end Reader

end Json

namespace Sync

open Web

namespace Server

/-- A form post leaves at most one request, a POST of the form, and a post the server took
left it. -/
theorem postForm_sent (s : Server) (e : Endpoint) (t : Ident) (fields : List (String × String)) :
    ∃ o : Option Sent, (s.postForm e t fields).run.2 = o.toList ∧
      (∀ r ∈ o, r.method = .post ∧ r.body = Text.formBody fields) ∧
      ∀ text, (s.postForm e t fields).run.1 = .ok text → o.isSome := by
  unfold postForm
  exact Exchange.sent_bind (fun reply sent => readText_keeps_sent _ reply sent)
    (call_sent s .post (s.config.urlFor e t) []
      (some ("application/x-www-form-urlencoded", Text.formBody fields)))

/-- Adding a tag on the server leaves at most one request, a POST of the form that names the
tag, and an add the server took left it. -/
theorem addTag_sent (s : Server) (t : Ident) (tag : TagName) :
    ∃ o : Option Sent, (s.addTag t tag).run.2 = o.toList ∧
      (∀ r ∈ o, r.method = .post ∧ r.body = Text.formBody [("tag_name", tag.text)]) ∧
      ∀ u, (s.addTag t tag).run.1 = .ok u → o.isSome := by
  unfold addTag
  exact Exchange.sent_bind (fun _ _ => rfl) (postForm_sent s .tag t _)

end Server

namespace Session

/-- A name that makes a tag is added on the server under that tag, once. -/
theorem addTag_of_ofString (s : Session) (t : Ident) {name : String} {tag : TagName}
    (h : TagName.ofString name = .ok tag) :
    s.addTag t name = (do s.server.addTag t tag; pure tag) := by
  simp only [addTag, h]

/-- Adding a tag leaves what the server's add left, and succeeds only when that add did. -/
theorem addTag_sent (s : Session) (t : Ident) {name : String} {tag : TagName}
    (h : TagName.ofString name = .ok tag) :
    ∃ o : Option Sent, (s.addTag t name).run.2 = o.toList ∧
      (∀ r ∈ o, r.method = .post ∧ r.body = Text.formBody [("tag_name", tag.text)]) ∧
      ∀ added, (s.addTag t name).run.1 = .ok added → o.isSome := by
  rw [addTag_of_ofString s t h]
  exact Server.Exchange.sent_bind (fun _ _ => rfl) (Server.addTag_sent s.server t tag)

end Session

end Sync

/-- A tag name is the text without the blanks around it, and a blank text is refused, on
every path: made from the text, read from a JSON string (whose refusal reads as the refusal's
sentence), and added to a tender by a session, which sends nothing for a blank name and
otherwise adds the trimmed name once, by at most one POST of the form that names it. A name
that is already a tag's is that tag. -/
theorem tagName_paths_agree (s : String) :
    (TagName.ofString s).map TagName.text =
        (if Text.trimBlank s = "" then .error .empty else .ok (Text.trimBlank s)) ∧
    Json.Reader.run Json.Reader.tagName (Json.quote s) =
        (TagName.ofString s).mapError (fun e => ⟨.problem (.tag e), none⟩) ∧
    (∀ e : TagError, (⟨.problem (.tag e), none⟩ : Json.ReadError).message = e.message) ∧
    TagError.message .empty = "tag name can not be empty" ∧
    (∀ t : TagName, TagName.ofString t.text = .ok t) ∧
    ∀ (sess : Sync.Session) (tender : Ident),
      (Text.trimBlank s = "" → (sess.addTag tender s).run = (.error (.tag .empty), [])) ∧
      (Text.trimBlank s ≠ "" → ∃ t : TagName, t.text = Text.trimBlank s ∧
        sess.addTag tender s = (do sess.server.addTag tender t; pure t) ∧
        ∃ o : Option Web.Sent, (sess.addTag tender s).run.2 = o.toList ∧
          (∀ r ∈ o, r.method = .post ∧ r.body = Text.formBody [("tag_name", t.text)]) ∧
          ∀ added, (sess.addTag tender s).run.1 = .ok added → o.isSome) := by
  refine ⟨TagName.ofString_map_text s, Json.Reader.run_tagName_quote s,
    Json.ReadError.message_tag, rfl, TagName.ofString_text_self, fun sess tender => ⟨?_, ?_⟩⟩
  · exact Sync.Session.addTag_blank sess tender s
  · intro hne
    -- a text that is not blank makes the tag of its trimmed name
    have hof : TagName.ofString s = .ok ⟨Text.trimBlank s, hne, Text.trimBlank_trimBlank s⟩ := by
      unfold TagName.ofString
      rw [dif_neg hne]
    exact ⟨_, rfl, Sync.Session.addTag_of_ofString sess tender hof,
      Sync.Session.addTag_sent sess tender hof⟩

/-- A name padded with an ideographic space and a tab is added trimmed, and a name of blanks
alone is refused with nothing sent. -/
theorem tagName_paths_agree_padded :
    let tender : Ident := ⟨1, by decide, by decide⟩
    let sess : Sync.Session := { server := ⟨{ baseUrl := "http://stub" }, Web.Network.unreachable⟩ }
    (Text.trimBlank " \t\u3000" = "" ∧
      (sess.addTag tender " \t\u3000").run = (.error (.tag .empty), [])) ∧
    (Text.trimBlank "\u3000urgent\t" ≠ "" ∧ ∃ t : TagName, t.text = "urgent" ∧
      sess.addTag tender "\u3000urgent\t" = (do sess.server.addTag tender t; pure t)) := by
  intro tender sess
  have hblank : Text.trimBlank " \t\u3000" = "" := by decide
  have htrim : Text.trimBlank "\u3000urgent\t" = "urgent" := by decide
  have hne : Text.trimBlank "\u3000urgent\t" ≠ "" := by rw [htrim]; decide
  obtain ⟨t, ht, hadd, -⟩ := ((tagName_paths_agree "\u3000urgent\t").2.2.2.2.2 sess tender).2 hne
  exact ⟨⟨hblank, ((tagName_paths_agree " \t\u3000").2.2.2.2.2 sess tender).1 hblank⟩,
    ⟨hne, t, ht.trans htrim, hadd⟩⟩

end TenderClient
