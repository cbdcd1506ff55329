import TenderClient.Ident
import TenderClient.Text.Blank
import TenderClient.Text.Replace
import TenderClient.Decode.Problem
/-!
# Client configuration

Where the server is and how to talk to it: the base URL, the Cookie header to send, the
name of the cookie that holds the CSRF token, the acting user, the request timeout and the
path templates of the five endpoints. A template holds `{id}` where the tender's
identifier goes.

A configuration is valid when its base URL, blanks dropped, starts with `http://` or
`https://`, its timeout is at least one second and every template holds `{id}`; the checks
run in that order, templates in the order followers, favourite, seen, delete, tag.

Main statement: `validate_eq_ok_iff`, the three checks a valid configuration passes.
-/

set_option autoImplicit false

namespace TenderClient

/-- The endpoints of the server. -/
inductive Endpoint where
  | followers
  | favourite
  | seen
  | delete
  | tag
deriving DecidableEq, Repr

/-- The path templates of the endpoints. -/
structure Endpoints where
  followers : String := "/tenders/{id}/followers/"
  favourite : String := "/tenders/favourite/{id}"
  seen : String := "/tenders/seen/{id}"
  delete : String := "/tenders/delete/{id}"
  tag : String := "/tenders/tag/{id}"
deriving DecidableEq, Repr

/-- The template of an endpoint. -/
def Endpoints.template (e : Endpoints) : Endpoint → String
  | .followers => e.followers
  | .favourite => e.favourite
  | .seen => e.seen
  | .delete => e.delete
  | .tag => e.tag

/-- The templates in the order they are checked. -/
def Endpoints.all (e : Endpoints) : List String := [e.followers, e.favourite, e.seen, e.delete, e.tag]

/-- The name of the cookie that holds the CSRF token, unless configured. -/
def defaultCsrfCookie : String := "csrftoken"

/-- The request timeout in seconds, unless configured. -/
def defaultTimeout : UInt64 := 30

/-- How to reach the server. -/
structure ClientConfig where
  baseUrl : String
  cookie : Option String := none
  csrfCookie : String := defaultCsrfCookie
  userId : Option Ident := none
  timeoutSecs : UInt64 := defaultTimeout
  endpoints : Endpoints := {}
deriving DecidableEq

/-- Why a configuration cannot be used. -/
inductive ConfigError where
  /-- The file could not be read or written. -/
  | io (path : String) (detail : String)
  /-- A configuration could not be written as YAML. -/
  | yaml (detail : String)
  /-- The file is no valid configuration document; `detail` says why. -/
  | parse (path : String) (detail : String)
  | notFound (path : String)
  | invalidBaseUrl (url : String)
  | invalidEndpoint (template : String)
  | invalidTimeout (value : UInt64)

/-- The sentence that reports the error. -/
def ConfigError.message : ConfigError → String
  | .io path detail => "I/O error at " ++ path ++ ": " ++ detail
  | .yaml detail => "YAML serialization error: " ++ detail
  | .parse path detail => "failed to parse config at " ++ path ++ ": " ++ detail
  | .notFound path =>
    "config not found at " ++ path ++ "; run `tenderwatch config init` first"
  | .invalidBaseUrl url => "base URL '" ++ url ++ "' must start with http:// or https://"
  | .invalidEndpoint template =>
    "endpoint template '" ++ template ++ "' has no \x7bid\x7d placeholder"
  | .invalidTimeout value => "timeout_secs must be at least 1, got " ++ Nat.repr value.toNat

/-- The placeholder for the tender in a template. -/
def idPlaceholder : String := "\x7bid\x7d"

/-- The first template without the placeholder, if any. -/
def firstWithoutPlaceholder : List String → Option String
  | [] => none
  | t :: rest => if Text.holds t idPlaceholder then firstWithoutPlaceholder rest else some t

namespace ClientConfig

/-- Whether the base URL, blanks dropped, names an HTTP or HTTPS server. -/
def hasWebScheme (c : ClientConfig) : Bool :=
  let url := Text.trimBlank c.baseUrl
  url.startsWith "http://" || url.startsWith "https://"

/-- Checks the base URL, then the timeout, then the templates. -/
def validate (c : ClientConfig) : Except ConfigError Unit :=
  if !c.hasWebScheme then .error (.invalidBaseUrl c.baseUrl)
  else if c.timeoutSecs = 0 then .error (.invalidTimeout c.timeoutSecs)
  else match firstWithoutPlaceholder c.endpoints.all with
    | some t => .error (.invalidEndpoint t)
    | none => .ok ()

/-- The configuration with a base URL and all else by default, if it is valid. -/
def ofBaseUrl (url : String) : Except ConfigError ClientConfig :=
  let c : ClientConfig := { baseUrl := url }
  c.validate.map fun _ => c

/-- The URL of an endpoint for a tender: the base URL without blanks around it and without
trailing slashes, then the template with the identifier in place of `{id}`, joined by a
slash unless the path starts with one. -/
def urlFor (c : ClientConfig) (e : Endpoint) (t : Ident) : String :=
  let base := Text.dropTrailing '/' (Text.trimBlank c.baseUrl)
  let path := Text.replace (c.endpoints.template e) idPlaceholder t.render
  if path.startsWith "/" then base ++ path else base ++ "/" ++ path

/-- The fields of a configuration read so far. -/
structure Fields where
  baseUrl : Option String := none
  cookie : Option (Option String) := none
  csrfCookie : Option String := none
  userId : Option (Option Ident) := none
  timeoutSecs : Option UInt64 := none
  endpoints : Option Endpoints := none

/-- A configuration from its fields; the base URL is required. -/
def finish (st : Fields) : Except Decode.Problem ClientConfig :=
  match st.baseUrl with
  | none => .error (.missingField "base_url")
  | some baseUrl =>
    .ok { baseUrl, cookie := st.cookie.getD none, csrfCookie := st.csrfCookie.getD defaultCsrfCookie,
          userId := st.userId.getD none, timeoutSecs := st.timeoutSecs.getD defaultTimeout,
          endpoints := st.endpoints.getD {} }

theorem validate_eq_ok_iff (c : ClientConfig) :
    c.validate = .ok () ↔
      c.hasWebScheme = true ∧ c.timeoutSecs ≠ 0 ∧ firstWithoutPlaceholder c.endpoints.all = none := by
  unfold validate
  split
  · rename_i h
    simp_all
  · split
    · simp_all
    · split
      · simp_all
      · rename_i h1 h2 _ h3
        simp_all

end ClientConfig

/-- The path of the configuration file under a home directory. -/
def configPath (home : String) : String := home ++ "/.tenderwatch/config.yaml"

end TenderClient
