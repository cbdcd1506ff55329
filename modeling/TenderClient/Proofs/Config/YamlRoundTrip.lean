import TenderClient.Proofs.Yaml.WrittenNode
import TenderClient.Config.File
/-!
# Saving and loading the configuration file

A configuration written as YAML reads back as itself. The writer lists the base URL, the
cookie when there is one, the CSRF cookie name, the acting user when there is one, the
timeout and the endpoints mapping (`yamlEntries_eq`); the reader takes each entry into its
own field, once (`yamlEntry_baseUrl` and the others), and a field no entry gives keeps its
default, so an unknown cookie or user reads back as none (`finish_fieldsOf`). Every text
reads back verbatim, whatever style it is written in; the user and the timeout are written
as their digits and read back as the same numbers, the user through the identifier reader
and the timeout through the reader of 64-bit words. This holds whenever the YAML layer
parses a written document back into the items it was written as (`ReadsBack`,
`ofStream_readsBack`); the program's own YAML layer does so on the text of
`saveAt_loadAt_round_trip_fresh_home`.

Saving refuses an invalid configuration with its error and touches no file; a valid one is
written to the temporary sibling, which is renamed over the configuration file, so the file
then holds the text, the temporary file is gone and no other file changes. Loading the file
gives the configuration back (`saveAt_loadAt_round_trip`).
-/

set_option autoImplicit false

namespace TenderClient

open Yaml

/-! ## The endpoints -/

namespace Endpoints

/-- A template under a key of the endpoints mapping that was not met yet is taken. -/
theorem yamlEntry_reads {e : Endpoints} {seen : List String} {key : String} (path : Path)
    (t : String) (hkey : keys.contains key = true) (hseen : seen.contains key = false) :
    ReadsNode (yamlEntry (e, seen) key path) (Node.text t) (e.setTemplate key t, key :: seen) 0 := by
  intro d c hat hroom
  unfold yamlEntry
  simp only [hkey, hseen, Bool.not_true, Bool.false_eq_true, if_false]
  exact (string_reads path t _ d c hat hroom).bind (Read.Steps.pure _ _)

/-- The endpoints mapping reads back as the endpoints, each template verbatim. -/
theorem readYaml_reads (path : Path) (e : Endpoints) : ReadsNode (readYaml path) e.toYaml e 1 := by
  -- the five keys are distinct, so each is met for the first time
  refine record_reads (.cons (yamlEntry_reads _ _ (by decide) rfl)
    (.cons (yamlEntry_reads _ _ (by decide) (by decide))
    (.cons (yamlEntry_reads _ _ (by decide) (by decide))
    (.cons (yamlEntry_reads _ _ (by decide) (by decide))
    (.cons (yamlEntry_reads _ _ (by decide) (by decide)) (.nil _)))))) ?_
  cases e
  simp [setTemplate]

end Endpoints

/-! ## The configuration mapping -/

namespace ClientConfig

/-- A field met for the first time is read by its reader and stored. -/
theorem once_reads {α β γ : Type} (name : String) {x : Read α} {node : Node} {v : α}
    {room : Nat} (store : α → β) (hx : ReadsNode x node v room) :
    ReadsNode (do once name (none : Option γ); return store (← x)) node (store v) room :=
  fun d c hat hroom => (Read.Steps.pure () c).bind ((hx d c hat hroom).bind (Read.Steps.pure _ _))

theorem yamlEntry_baseUrl {st : Fields} (path : Path) (s : String) (h : st.baseUrl = none) :
    ReadsNode (yamlEntry st "base_url" path) (Node.text s) { st with baseUrl := some s } 0 := by
  unfold yamlEntry
  simp only [String.reduceBEq, ↓reduceIte, h]
  exact once_reads "base_url" (fun v => { st with baseUrl := some v }) (string_reads path s _)

theorem yamlEntry_cookie {st : Fields} (path : Path) (k : String) (h : st.cookie = none) :
    ReadsNode (yamlEntry st "cookie" path) (Node.text k) { st with cookie := some (some k) } 0 := by
  unfold yamlEntry
  simp only [String.reduceBEq, Bool.false_eq_true, ↓reduceIte, h]
  exact once_reads "cookie" (fun v => { st with cookie := some v })
    (optional_text_reads path (string_reads path k _))

theorem yamlEntry_csrfCookie {st : Fields} (path : Path) (s : String) (h : st.csrfCookie = none) :
    ReadsNode (yamlEntry st "csrf_cookie" path) (Node.text s) { st with csrfCookie := some s } 0 := by
  unfold yamlEntry
  simp only [String.reduceBEq, Bool.false_eq_true, ↓reduceIte, h]
  exact once_reads "csrf_cookie" (fun v => { st with csrfCookie := some v })
    (string_reads path s _)

/-- A user written as its digits reads back as the same identifier. -/
theorem readIdent_reads (path : Path) (u : Ident) :
    ReadsNode (readIdent path) (Node.number u.val) u 0 := by
  intro d c hat _
  obtain ⟨⟨m, hm⟩, -⟩ := itemsAt_cons.mp hat
  have hr : Scalar.resolve none (Nat.repr u.val)
      (Write.chooseStyle .plain (Nat.repr u.val) false).toScalarStyle = .unsigned u.val := by
    simp [Scalar.resolve, Write.chooseStyle_number, Written.toScalarStyle,
      Scalar.untagged_repr u.lt]
  unfold readIdent
  refine (Read.idShape_steps hm hr).bind ?_
  simp only [Ident.ofForm, Ident.ofNat?_val_self]
  exact Read.Steps.pure u _

theorem yamlEntry_userId {st : Fields} (path : Path) (u : Ident) (h : st.userId = none) :
    ReadsNode (yamlEntry st "user_id" path) (Node.number u.val)
      { st with userId := some (some u) } 0 := by
  unfold yamlEntry
  simp only [String.reduceBEq, Bool.false_eq_true, ↓reduceIte, h]
  exact once_reads "user_id" (fun v => { st with userId := some v })
    (optional_number_reads path (readIdent_reads path u))

/-- A timeout written as its digits reads back as the same 64-bit word. -/
theorem yamlEntry_timeoutSecs {st : Fields} (path : Path) (t : UInt64) (h : st.timeoutSecs = none) :
    ReadsNode (yamlEntry st "timeout_secs" path) (Node.number t.toNat)
      { st with timeoutSecs := some t } 0 := by
  unfold yamlEntry
  simp only [String.reduceBEq, Bool.false_eq_true, ↓reduceIte, h]
  -- the digits of a word are below 2^64, so they read back and convert to the word again
  have hread := @once_reads Nat Fields UInt64 "timeout_secs" _ _ _ _
    (fun v => { st with timeoutSecs := some v.toUInt64 }) (word_reads path (UInt64.toNat_lt t))
  rwa [show t.toNat.toUInt64 = t from UInt64.ofNat_toNat] at hread

theorem yamlEntry_endpoints {st : Fields} (path : Path) (e : Endpoints) (h : st.endpoints = none) :
    ReadsNode (yamlEntry st "endpoints" path) e.toYaml { st with endpoints := some e } 1 := by
  unfold yamlEntry
  simp only [String.reduceBEq, Bool.false_eq_true, ↓reduceIte, h]
  exact once_reads "endpoints" (fun v => { st with endpoints := some v })
    (Endpoints.readYaml_reads path e)

/-- The entries of a configuration: the optional ones are there when their field is. -/
theorem yamlEntries_eq (c : ClientConfig) :
    c.yamlEntries =
      [("base_url", Node.text c.baseUrl)] ++ (c.cookie.map fun k => ("cookie", Node.text k)).toList ++
        [("csrf_cookie", Node.text c.csrfCookie)] ++
        (c.userId.map fun u => ("user_id", Node.number u.val)).toList ++
        [("timeout_secs", Node.number c.timeoutSecs.toNat), ("endpoints", c.endpoints.toYaml)] := by
  unfold yamlEntries
  cases c.cookie <;> cases c.userId <;> rfl

/-- The fields the entries of a configuration are read into. -/
def fieldsOf (c : ClientConfig) : Fields :=
  { baseUrl := some c.baseUrl, cookie := c.cookie.map some, csrfCookie := some c.csrfCookie,
    userId := c.userId.map some, timeoutSecs := some c.timeoutSecs,
    endpoints := some c.endpoints }

/-- The fields of a configuration make it again: a field left out takes the value it was
left out for. -/
theorem finish_fieldsOf (c : ClientConfig) : finish c.fieldsOf = .ok c := by
  obtain ⟨baseUrl, cookie, csrfCookie, userId, timeoutSecs, endpoints⟩ := c
  cases cookie <;> cases userId <;> rfl

/-- The entries of a configuration are read one after another into its fields. -/
theorem entriesRead_yamlEntries (c : ClientConfig) :
    EntriesRead yamlEntry .root 1 c.yamlEntries {} c.fieldsOf := by
  have hbase : EntriesRead yamlEntry .root 1 [("base_url", Node.text c.baseUrl)] {}
      { baseUrl := some c.baseUrl } :=
    .cons ((yamlEntry_baseUrl _ c.baseUrl rfl).mono (Nat.zero_le 1)) (.nil _)
  have hcookie : EntriesRead yamlEntry .root 1 (c.cookie.map fun k => ("cookie", Node.text k)).toList
      { baseUrl := some c.baseUrl } { baseUrl := some c.baseUrl, cookie := c.cookie.map some } := by
    cases c.cookie with
    | none => exact .nil _
    | some k => exact .cons ((yamlEntry_cookie _ k rfl).mono (Nat.zero_le 1)) (.nil _)
  have hcsrf : EntriesRead yamlEntry .root 1 [("csrf_cookie", Node.text c.csrfCookie)]
      { baseUrl := some c.baseUrl, cookie := c.cookie.map some }
      { baseUrl := some c.baseUrl, cookie := c.cookie.map some,
        csrfCookie := some c.csrfCookie } :=
    .cons ((yamlEntry_csrfCookie _ c.csrfCookie rfl).mono (Nat.zero_le 1)) (.nil _)
  have huser : EntriesRead yamlEntry .root 1
      (c.userId.map fun u => ("user_id", Node.number u.val)).toList
      { baseUrl := some c.baseUrl, cookie := c.cookie.map some, csrfCookie := some c.csrfCookie }
      { baseUrl := some c.baseUrl, cookie := c.cookie.map some, csrfCookie := some c.csrfCookie,
        userId := c.userId.map some } := by
    cases c.userId with
    | none => exact .nil _
    | some u => exact .cons ((yamlEntry_userId _ u rfl).mono (Nat.zero_le 1)) (.nil _)
  have hrest : EntriesRead yamlEntry .root 1
      [("timeout_secs", Node.number c.timeoutSecs.toNat), ("endpoints", c.endpoints.toYaml)]
      { baseUrl := some c.baseUrl, cookie := c.cookie.map some, csrfCookie := some c.csrfCookie,
        userId := c.userId.map some } c.fieldsOf :=
    .cons ((yamlEntry_timeoutSecs _ c.timeoutSecs rfl).mono (Nat.zero_le 1))
      (.cons (yamlEntry_endpoints _ c.endpoints rfl) (.nil _))
  rw [yamlEntries_eq]
  exact (((hbase.append hcookie).append hcsrf).append huser).append hrest

/-- A configuration reads back from its YAML text, once the YAML layer parses a written
document back into its items. -/
theorem ofStream_readsBack {read : String → Stream} {c : ClientConfig}
    (hback : ReadsBack read c.yamlEntries) : ofStream (read c.toYaml) = .ok c := by
  unfold ofStream toYaml
  exact runOn_of_readsBack (record_reads (entriesRead_yamlEntries c) (finish_fieldsOf c))
    (by decide) hback

end ClientConfig

/-! ## The file on disk -/

/-- The temporary file is another file than the configuration file. -/
theorem configTmpPath_ne (home : String) : configTmpPath home ≠ configPath home := by
  intro h
  have hlen := congrArg String.length h
  simp [configTmpPath] at hlen

namespace ClientConfig

theorem saveAt_of_validate_error {fs : Files} {home : String} {c : ClientConfig}
    {e : ConfigError} (h : c.validate = .error e) : c.saveAt fs home = (.error e, fs) := by
  simp only [saveAt, save, h]
  rfl

theorem saveAt_of_validate_ok {fs : Files} {home : String} {c : ClientConfig}
    (h : c.validate = .ok ()) :
    c.saveAt fs home = (.ok (configPath home),
      (fs.write (configTmpPath home) c.toYaml).rename (configTmpPath home) (configPath home)) := by
  simp only [saveAt, save, h]
  rfl

/-- Loading a file that holds a configuration's YAML text, with a YAML layer that reads it
back, gives the configuration when it is valid. -/
theorem loadAtWith_of_contents {read : String → Stream} {fs : Files} {home : String}
    {c : ClientConfig} (hfile : fs.contents (configPath home) = some c.toYaml)
    (hvalid : c.validate = .ok ()) (hback : ReadsBack read c.yamlEntries) :
    loadAtWith read fs home = .ok c := by
  simp only [loadAtWith, loadWith, hfile, ofStream_readsBack hback, hvalid]
  rfl

end ClientConfig

open ClientConfig in
/-- Saving and loading the configuration file. An invalid configuration is refused with
its validation error and no file changes. A valid one is written to the configuration file under the home directory: the file then holds its YAML
text, the temporary file is gone, no other file changes, and loading the file, with a YAML
layer that parses a written document back into its items, gives the configuration back,
field for field: an unknown cookie or user, left out of the text, reads back as unknown,
and every template and text verbatim. -/
theorem saveAt_loadAt_round_trip (read : String → Stream) (fs : Files) (home : String)
    (c : ClientConfig) :
    (∀ e, c.validate = .error e → c.saveAt fs home = (.error e, fs)) ∧
    (c.validate = .ok () → ReadsBack read c.yamlEntries →
      ∃ fs', c.saveAt fs home = (.ok (configPath home), fs') ∧
        fs'.contents (configPath home) = some c.toYaml ∧
        fs'.contents (configTmpPath home) = none ∧
        (∀ p, p ≠ configPath home → p ≠ configTmpPath home → fs'.contents p = fs.contents p) ∧
        loadAtWith read fs' home = .ok c) := by
  refine ⟨fun e h => saveAt_of_validate_error h, fun hvalid hback => ?_⟩
  have hne := configTmpPath_ne home
  have hfile : ((fs.write (configTmpPath home) c.toYaml).rename (configTmpPath home)
      (configPath home)).contents (configPath home) = some c.toYaml := by
    simp
  refine ⟨_, saveAt_of_validate_ok hvalid, hfile, by simp [hne], fun p hp htmp => ?_,
    loadAtWith_of_contents hfile hvalid hback⟩
  simp [hp, htmp]

open ClientConfig in
/-- A configuration with a cookie and a user, saved under a home without files and loaded
back by the program's own YAML layer, which parses its text back into the items it was
written as. -/
theorem saveAt_loadAt_round_trip_fresh_home :
    let u : Ident := ⟨42, by decide, by decide⟩
    let c : ClientConfig :=
      { baseUrl := "https://tenders.example", cookie := some "sessionid=abc", userId := some u }
    let fs : Files := ⟨fun _ => none⟩
    c.validate = .ok () ∧ ReadsBack Stream.read c.yamlEntries ∧
      ∃ fs', c.saveAt fs "/home/user" = (.ok (configPath "/home/user"), fs') ∧
        fs'.contents (configPath "/home/user") = some c.toYaml ∧
        fs'.contents (configTmpPath "/home/user") = none ∧
        (∀ p, p ≠ configPath "/home/user" → p ≠ configTmpPath "/home/user" →
          fs'.contents p = fs.contents p) ∧
        loadAt fs' "/home/user" = .ok c := by
  intro u c fs
  have hvalid : c.validate = .ok () := by
    rw [validate_eq_ok_iff]
    refine ⟨?_, by decide, by decide⟩
    simp [c, hasWebScheme, Text.trimBlank_toList]
    decide
  -- the scanner and parser run on the written text in the kernel
  have hback : ReadsBack Stream.read c.yamlEntries := by
    unfold ReadsBack
    decide +kernel
  exact ⟨hvalid, hback, (saveAt_loadAt_round_trip Stream.read fs "/home/user" c).2 hvalid hback⟩

end TenderClient
