import TenderClient.Config.Basic
import TenderClient.Json.FromValue
import TenderClient.Json.Encode
/-!
# Configuration as JSON

A configuration read from a JSON value and written as one. Reading follows the rules of
records (`Json.asRecord`): `base_url` is required, every other field has its default, and
the endpoint templates each default on their own. Writing lists the fields in the order
`base_url`, `cookie`, `csrf_cookie`, `user_id`, `timeout_secs`, `endpoints`, leaving out
an unknown cookie or user.
-/

set_option autoImplicit false

namespace TenderClient

open Decode

namespace Endpoints

/-- One member of the endpoints. -/
def member (st : Endpoints) (key : String) (v : Json) : Except Problem Endpoints :=
  if key = "followers" then do pure { st with followers := ← Json.asString v }
  else if key = "favourite" then do pure { st with favourite := ← Json.asString v }
  else if key = "seen" then do pure { st with seen := ← Json.asString v }
  else if key = "delete" then do pure { st with delete := ← Json.asString v }
  else if key = "tag" then do pure { st with tag := ← Json.asString v }
  else pure st

/-- The endpoints from the array of their templates, defaults for those left out. -/
def ofFields (items : List Json) : Except Problem Endpoints := do
  let d : Endpoints := {}
  let get (i : Nat) (dflt : String) : Except Problem String :=
    match items[i]? with
    | some v => Json.asString v
    | none => pure dflt
  let followers ← get 0 d.followers
  let favourite ← get 1 d.favourite
  let seen ← get 2 d.seen
  let delete ← get 3 d.delete
  let tag ← get 4 d.tag
  pure { followers, favourite, seen, delete, tag }

/-- The endpoints from a JSON value. -/
def ofJson (v : Json) : Except Problem Endpoints :=
  Json.asRecord "struct Endpoints" 5 {} member pure ofFields v

/-- The endpoints as a JSON object. -/
def toJson (e : Endpoints) : Json :=
  .object [("followers", .string e.followers), ("favourite", .string e.favourite),
    ("seen", .string e.seen), ("delete", .string e.delete), ("tag", .string e.tag)]

end Endpoints

namespace ClientConfig

/-- One member of a configuration. -/
def member (st : Fields) (key : String) (v : Json) : Except Problem Fields :=
  if key = "base_url" then do
    pure { st with baseUrl := some (← Json.setOnce "base_url" st.baseUrl (Json.asString v)) }
  else if key = "cookie" then do
    pure { st with cookie := some (← Json.setOnce "cookie" st.cookie
      (Json.asOption Json.asString v)) }
  else if key = "csrf_cookie" then do
    pure { st with csrfCookie := some (← Json.setOnce "csrf_cookie" st.csrfCookie
      (Json.asString v)) }
  else if key = "user_id" then do
    pure { st with userId := some (← Json.setOnce "user_id" st.userId
      (Json.asOption Json.asIdent v)) }
  else if key = "timeout_secs" then do
    pure { st with timeoutSecs := some (← Json.setOnce "timeout_secs" st.timeoutSecs
      (Nat.toUInt64 <$> Json.asWord v)) }
  else if key = "endpoints" then do
    pure { st with endpoints := some (← Json.setOnce "endpoints" st.endpoints
      (Endpoints.ofJson v)) }
  else pure st

/-- A configuration from the array of its fields. -/
def ofFields (items : List Json) : Except Problem ClientConfig := do
  match items with
  | [] => .error (.invalidLength 0 "struct ClientConfig with 6 elements")
  | b :: rest =>
    let baseUrl ← Json.asString b
    let cookie ← match rest[0]? with
      | some v => Json.asOption Json.asString v
      | none => pure none
    let csrfCookie ← match rest[1]? with
      | some v => Json.asString v
      | none => pure defaultCsrfCookie
    let userId ← match rest[2]? with
      | some v => Json.asOption Json.asIdent v
      | none => pure none
    let timeoutSecs ← match rest[3]? with
      | some v => Nat.toUInt64 <$> Json.asWord v
      | none => pure defaultTimeout
    let endpoints ← match rest[4]? with
      | some v => Endpoints.ofJson v
      | none => pure {}
    pure { baseUrl, cookie, csrfCookie, userId, timeoutSecs, endpoints }

/-- A configuration from a JSON value. -/
def ofJson (v : Json) : Except Problem ClientConfig :=
  Json.asRecord "struct ClientConfig" 6 {} member finish ofFields v

/-- A configuration as a JSON object. -/
def toJson (c : ClientConfig) : Json :=
  .object ([("base_url", .string c.baseUrl)] ++
    (match c.cookie with
      | some k => [("cookie", .string k)]
      | none => []) ++
    [("csrf_cookie", .string c.csrfCookie)] ++
    (match c.userId with
      | some u => [("user_id", u.toJson)]
      | none => []) ++
    [("timeout_secs", .number (.nat c.timeoutSecs.toNat)), ("endpoints", c.endpoints.toJson)])

end ClientConfig

end TenderClient
