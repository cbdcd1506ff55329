import TenderClient.Config.Basic
import TenderClient.Yaml.Read
import TenderClient.Yaml.Write

/-!
# Configuration as YAML

The configuration file is a YAML mapping. Reading it follows the rules of records: the base
URL is required, a field given twice is refused, unknown keys are passed over, and each
endpoint template defaults on its own. The cookie and the acting user may be null. The user
is read as an identifier from an integer or a text.

Writing lists `base_url`, `cookie`, `csrf_cookie`, `user_id`, `timeout_secs` and the
`endpoints` mapping, leaving out an unknown cookie or user, each text in the style that
reads back as the same text.
-/

set_option autoImplicit false

namespace TenderClient

open Decode Yaml

namespace Endpoints

/-- The keys of the endpoints mapping. -/
def keys : List String := ["followers", "favourite", "seen", "delete", "tag"]

/-- Sets the template of a key. -/
def setTemplate (e : Endpoints) (key template : String) : Endpoints :=
  if key == "followers" then { e with followers := template }
  else if key == "favourite" then { e with favourite := template }
  else if key == "seen" then { e with seen := template }
  else if key == "delete" then { e with delete := template }
  else if key == "tag" then { e with tag := template }
  else e

/-- One entry of the endpoints mapping: a template, given at most once. -/
def yamlEntry (st : Endpoints × List String) (key : String) (path : Yaml.Path) :
    Read (Endpoints × List String) := do
  let (e, seen) := st
  if !keys.contains key then
    Read.skipNode
    return st
  if seen.contains key then throw (.problem (.duplicateField key) none)
  let template ← Read.string path
  return (e.setTemplate key template, key :: seen)

/-- The endpoints from a node of the document. -/
def readYaml (path : Yaml.Path) : Read Endpoints :=
  Read.record path "struct Endpoints" ({}, []) yamlEntry fun st => .ok st.1

/-- The endpoints as a YAML mapping. -/
def toYaml (e : Endpoints) : Node :=
  .mapping [("followers", .text e.followers), ("favourite", .text e.favourite),
    ("seen", .text e.seen), ("delete", .text e.delete), ("tag", .text e.tag)]

end Endpoints

namespace ClientConfig

/-- An identifier from a node: an integer or a text, refused as `Ident.ofForm` says. -/
def readIdent (path : Yaml.Path) : Read Ident := do
  match ← Read.idShape path with
  | none => throw (.problem .noIdShape none)
  | some form =>
    match Ident.ofForm form with
    | .ok i => return i
    | .error e => throw (.problem (.ident e) none)

/-- Refuses a field given twice. -/
def once {α : Type} (name : String) (seen : Option α) : Read Unit :=
  if seen.isSome then throw (.problem (.duplicateField name) none) else pure ()

/-- One entry of the configuration mapping. -/
def yamlEntry (st : Fields) (key : String) (path : Yaml.Path) : Read Fields := do
  if key == "base_url" then
    once key st.baseUrl
    return { st with baseUrl := some (← Read.string path) }
  else if key == "cookie" then
    once key st.cookie
    return { st with cookie := some (← Read.optional path Read.string) }
  else if key == "csrf_cookie" then
    once key st.csrfCookie
    return { st with csrfCookie := some (← Read.string path) }
  else if key == "user_id" then
    once key st.userId
    return { st with userId := some (← Read.optional path readIdent) }
  else if key == "timeout_secs" then
    once key st.timeoutSecs
    return { st with timeoutSecs := some (← Read.word path).toUInt64 }
  else if key == "endpoints" then
    once key st.endpoints
    return { st with endpoints := some (← Endpoints.readYaml path) }
  else
    Read.skipNode
    return st

/-- A configuration from the first document of a YAML stream. -/
def ofStream (stream : Stream) : Except LoadError ClientConfig :=
  Read.runOn stream (Read.record .root "struct ClientConfig" {} yamlEntry finish)

/-- A configuration from a YAML text. -/
def ofYaml (text : String) : Except LoadError ClientConfig := ofStream (Stream.read text)

/-- The entries of a configuration's mapping, an unknown cookie or user left out. -/
def yamlEntries (c : ClientConfig) : List (String × Node) :=
  [("base_url", Node.text c.baseUrl)] ++
    (match c.cookie with
      | some k => [("cookie", Node.text k)]
      | none => []) ++
    [("csrf_cookie", Node.text c.csrfCookie)] ++
    (match c.userId with
      | some u => [("user_id", Node.number u.val)]
      | none => []) ++
    [("timeout_secs", Node.number c.timeoutSecs.toNat), ("endpoints", c.endpoints.toYaml)]

/-- A configuration as a YAML document. -/
def toYaml (c : ClientConfig) : String := Node.document c.yamlEntries

/-- Loads the configuration under a home directory from the file's text, if there is a
file, reading the text as a YAML stream with `read`: it must read as a configuration and
pass validation. -/
def loadWith (read : String → Stream) (home : String) (file : Option String) :
    Except ConfigError ClientConfig :=
  let path := configPath home
  match file with
  | none => .error (.notFound path)
  | some text =>
    match ofStream (read text) with
    | .error e => .error (.parse path e.message)
    | .ok c => c.validate.map fun _ => c

/-- Loads the configuration under a home directory from the file's text, if there is a
file: it must read as a configuration and pass validation. -/
def load (home : String) (file : Option String) : Except ConfigError ClientConfig :=
  loadWith Stream.read home file

/-- What saving a configuration under a home directory writes: the path and the text of the
file, once the configuration is valid. -/
def save (home : String) (c : ClientConfig) : Except ConfigError (String × String) :=
  c.validate.map fun _ => (configPath home, c.toYaml)

end ClientConfig

end TenderClient
