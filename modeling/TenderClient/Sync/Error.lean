import TenderClient.Follower.Store
import TenderClient.Tag
import TenderClient.Web.Request
/-!
# Why a session step fails

A step fails on the follower state (no diff to save), on a tag name, on a server that
refuses the request, on a request that gets no reply, or on a reply that cannot be read.
Each reason names the URL as the client built it.
-/

set_option autoImplicit false

namespace TenderClient.Sync

open Web

/-- Why a step of a session fails. -/
inductive SyncError where
  | follower (e : FollowerError)
  | tag (e : TagError)
  /-- A reply with a status of 400 or more, and the start of its body. -/
  | rejected (url : String) (status : Nat) (body : String)
  | transport (url : String) (e : TransportError)
  /-- A reply whose body is not what was asked for. -/
  | badResponse (url : String) (detail : String)
deriving DecidableEq

/-- The sentence that reports the error. -/
def SyncError.message : SyncError → String
  | .follower e => "follower state error: " ++ e.message
  | .tag e => "invalid tag: " ++ e.message
  | .rejected url status body =>
    "server rejected " ++ url ++ " with status " ++ Nat.repr status ++ ": " ++ body
  | .transport url e => "request to " ++ url ++ " failed: " ++ e.message
  | .badResponse url detail => "invalid response from " ++ url ++ ": " ++ detail

/-- A step that talks to a server: it may fail, and it records every request that reached
the server, failed or not. -/
abbrev Exchange := ExceptT SyncError (StateM (List Sent))

/-- Runs an exchange from an empty record. -/
def Exchange.run {α : Type} (x : Exchange α) : Except SyncError α × List Sent :=
  StateT.run (ExceptT.run x) [] |>.run

end TenderClient.Sync
