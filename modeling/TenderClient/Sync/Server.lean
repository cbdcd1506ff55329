import TenderClient.Sync.Error
import TenderClient.Config.Basic
import TenderClient.Web.Cookie
import TenderClient.Json.Decode
import TenderClient.Json.Encode
/-!
# The tender server

What the client asks of the server, each at the URL the configuration gives for the
tender:

* the follower listing, a GET that accepts JSON and reads the reply as an array of user
  records;
* a follower save, a POST of the payload as JSON with its keys in alphabetical order;
* the favourite and seen flags, a tag and a deletion, each a POST of a form.

Every request carries the configured cookie, and the CSRF token read from it when there
is one. A reply of status 400 or more is a refusal, reported with at most 512 bytes of its
body, cut at a character boundary; a body that cannot be read is reported as such. A body
that a successful request cannot read makes the reply a bad one.
-/

set_option autoImplicit false

namespace TenderClient.Sync

open Web

/-- The largest part of a refusal's body that is reported, in bytes. -/
def refusalBodyLimit : Nat := 512

/-- A client of the server: the configuration, and the network it reaches the server by. -/
structure Server where
  config : ClientConfig
  network : Network

namespace Server

/-- The CSRF token: the value of the configured cookie of that name, if any. -/
def csrfToken (s : Server) : Option String :=
  s.config.cookie.bind fun header => cookieValue header s.config.csrfCookie

/-- The headers every request carries: the cookie, then the CSRF token. -/
def baseHeaders (s : Server) : List (String × String) :=
  (s.config.cookie.map fun c => ("Cookie", c)).toList ++
    (s.csrfToken.map fun t => ("X-CSRFToken", t)).toList

/-- What a refusal reports of its body: the text, or a note of why it could not be read, cut
to `refusalBodyLimit` bytes at a character boundary. -/
def errorBody (read : Except String String) : String :=
  let text := match read with
    | .ok body => body
    | .error e => "<unreadable body: " ++ e ++ ">"
  Text.truncateAtCharBoundary refusalBodyLimit text

/-- The text of a reply's body; a body that cannot be read makes the reply a bad one. -/
def readText (url : String) (reply : Reply) : Exchange String :=
  match reply.body with
  | .ok text => pure text
  | .error e => throw (.badResponse url e)

/-- What became of a request to a URL, as the client reports it: no reply is a transport
error, and a reply of status 400 or more is a refusal with the start of its body. -/
def check (url : String) : Except TransportError Reply → Except SyncError Reply
  | .error e => .error (.transport url e)
  | .ok reply =>
    if reply.status ≥ 400 then .error (.rejected url reply.status (errorBody reply.body))
    else .ok reply

/-- Sends a request to a URL and takes the reply, checked. -/
def call (s : Server) (method : Method) (url : String) (headers : List (String × String))
    (body : Option (String × String)) : Exchange Reply := do
  let (result, sent) := Request.send s.network
    { method, url, headers := s.baseHeaders ++ headers, body }
  modify (· ++ sent.toList)
  match check url result with
  | .error e => throw e
  | .ok reply => pure reply

/-- The users listed for a tender. -/
def fetchUsers (s : Server) (t : Ident) : Exchange (List UserRecord) := do
  let url := s.config.urlFor .followers t
  let reply ← s.call .get url [("Accept", "application/json")] none
  match reply.body with
  | .error e => throw (.badResponse url ("Failed to read JSON: " ++ e))
  | .ok body =>
    match Json.Reader.run (Json.Reader.sequence Json.Reader.userRecord) body with
    | .ok users => pure users
    | .error e => throw (.badResponse url ("Failed to read JSON: " ++ e.message))

/-- The JSON body of a save: the payload's lists under their keys, in alphabetical order. -/
def saveBody (p : FollowerPayload) : String := (Json.normalize p.toJson).compact

/-- Saves the followers of a tender. -/
def saveFollowers (s : Server) (t : Ident) (p : FollowerPayload) : Exchange Unit := do
  let url := s.config.urlFor .followers t
  let reply ← s.call .post url [] (some ("application/json", saveBody p))
  let _ ← readText url reply
  pure ()

/-- Posts a form to an endpoint of a tender, and gives the text of the reply. -/
def postForm (s : Server) (e : Endpoint) (t : Ident) (fields : List (String × String)) :
    Exchange String := do
  let url := s.config.urlFor e t
  let reply ← s.call .post url []
    (some ("application/x-www-form-urlencoded", Text.formBody fields))
  readText url reply

/-- A flag as a form writes it. -/
def formFlag (b : Bool) : String := if b then "true" else "false"

/-- Marks a tender as a favourite or not. -/
def setFavourite (s : Server) (t : Ident) (favourite : Bool) : Exchange Unit := do
  let _ ← s.postForm .favourite t [("favourite", formFlag favourite)]

/-- Marks a tender as seen or not. -/
def setSeen (s : Server) (t : Ident) (seen : Bool) : Exchange Unit := do
  let _ ← s.postForm .seen t [("seen", formFlag seen)]

/-- Adds a tag to a tender. -/
def addTag (s : Server) (t : Ident) (tag : TagName) : Exchange Unit := do
  let _ ← s.postForm .tag t [("tag_name", tag.text)]

/-- Deletes a tender, and gives the reply without blanks around it. -/
def deleteTender (s : Server) (t : Ident) : Exchange String := do
  let body ← s.postForm .delete t []
  pure (Text.trimBlank body)

end Server

end TenderClient.Sync
