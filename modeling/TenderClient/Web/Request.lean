import TenderClient.Web.Url
/-!
# Requests over a network

A request names its method, its URL as text, the headers set on it in order, and a body
with its content type. Sending it goes through three checks, each failing with its own
transport error: every header value must be printable (tab, space, visible ASCII or bytes
beyond ASCII), then the URL must read, then the network must carry the request to a
server. A server that is reached always receives the request; it may reply, or close the
connection without a reply.

What reaches the server is recorded as a `Sent`: method, path and query, and the headers
the server sees. A request with no `Accept` header of its own accepts anything.

A reply of any status is a reply here; which statuses count as a refusal is up to the
caller.
-/

set_option autoImplicit false

namespace TenderClient.Web

/-- The two methods the client uses. -/
inductive Method where
  | get
  | post
deriving Repr, DecidableEq

/-- The method as it is written. -/
def Method.name : Method → String
  | .get => "GET"
  | .post => "POST"

/-- A request as the client builds it. -/
structure Request where
  method : Method
  url : String
  /-- Header names and values, in the order they were set. -/
  headers : List (String × String) := []
  /-- The content type and text of the body. -/
  body : Option (String × String) := none

/-- A request as it reaches the server. -/
structure Sent where
  method : Method
  /-- The path and query of the URL. -/
  target : String
  cookie : Option String
  csrf : Option String
  contentType : Option String
  accept : String
  body : String
deriving DecidableEq

/-- A server's reply: a status and its body as it was read, the text or the reason reading
it failed. -/
structure Reply where
  status : Nat
  body : Except String String

/-- What became of a request on the network. -/
inductive Delivery where
  | replied (r : Reply)
  /-- The server closed the connection without replying. -/
  | closed
  /-- No route led to the server. -/
  | unreachable

/-- The network between the client and its servers: what becomes of a request that was
sent to a URL. -/
structure Network where
  deliver : Url → Sent → Delivery

/-- A network on which no server can be reached. -/
def Network.unreachable : Network := ⟨fun _ _ => .unreachable⟩

/-- Why a request got no reply. -/
inductive TransportError where
  /-- A header value with a byte no header may hold; the header as a line. -/
  | badHeader (line : String)
  | badUrl (e : UrlError)
  | unreachable (url : Url)
  | closed (url : Url)
deriving DecidableEq

/-- The sentence that reports a transport error; one that happened on the way names the
URL in its normal form. -/
def TransportError.message : TransportError → String
  | .badHeader line => "Bad Header: invalid header '" ++ line ++ "'"
  | .badUrl e => "Bad URL: failed to parse URL: " ++ e.name ++ ": " ++ e.message
  | .unreachable u =>
    u.render ++ ": Connection Failed: Connect error: Network is unreachable (os error 101)"
  | .closed u => u.render ++ ": Network Error: Unexpected EOF"

/-- Whether a character may stand in a header value: tab, space or visible ASCII. Anything
beyond ASCII is refused, as are the other controls. -/
def headerChar (c : Char) : Bool := c == '\t' || (32 ≤ c.toNat && c.toNat ≤ 126)

/-- Whether a header value may be sent. -/
def validHeaderValue (v : String) : Bool := v.toList.all headerChar

namespace Request

/-- The value of the first header of a name, ignoring case. -/
def header? (r : Request) (name : String) : Option String :=
  (r.headers.find? fun h => h.1.toLower == name.toLower).map (·.2)

/-- The request as the server sees it at a URL. -/
def sentTo (r : Request) (u : Url) : Sent :=
  { method := r.method, target := u.target, cookie := r.header? "Cookie",
    csrf := r.header? "X-CSRFToken", contentType := r.body.map (·.1),
    accept := (r.header? "Accept").getD "*/*", body := (r.body.map (·.2)).getD "" }

/-- Sends a request over a network: the reply, and the request as the server saw it when
one was reached. -/
def send (net : Network) (r : Request) : Except TransportError Reply × Option Sent :=
  match r.headers.find? fun h => !validHeaderValue h.2 with
  | some (name, value) => (.error (.badHeader (name ++ ": " ++ value)), none)
  | none =>
    match Url.parse r.url with
    | .error e => (.error (.badUrl e), none)
    | .ok u =>
      let sent := r.sentTo u
      match net.deliver u sent with
      | .replied reply => (.ok reply, some sent)
      | .closed => (.error (.closed u), some sent)
      | .unreachable => (.error (.unreachable u), none)

end Request

end TenderClient.Web
