import TenderClient.Json.Value
import TenderClient.Follower.Store
import TenderClient.Tag
/-!
# Records as JSON

How the library's records are written as JSON: an identifier is a bare number, a tag its
name, a user record an object with `id`, `username`, `email` (left out when unknown) and
`is_follower`, and a payload an object with `old_followers`, `new_followers` and
`unfollowers`, in that order.
-/

set_option autoImplicit false

namespace TenderClient

/-- An identifier is written as a bare number. -/
def Ident.toJson (i : Ident) : Json := .number (.nat i.val)

/-- A list of identifiers, in its order. -/
def Ident.listJson (l : List Ident) : Json := .array (l.map Ident.toJson)

/-- A tag is written as its name. -/
def TagName.toJson (t : TagName) : Json := .string t.text

/-- A user record; the address is left out when unknown. -/
def UserRecord.toJson (u : UserRecord) : Json :=
  .object ([("id", u.id.toJson), ("username", .string u.username)] ++
    (match u.email with
      | some e => [("email", .string e)]
      | none => []) ++
    [("is_follower", .bool u.isFollower)])

/-- A payload, its three lists in the order confirmed, added, removed. -/
def FollowerPayload.toJson (p : FollowerPayload) : Json :=
  .object [("old_followers", Ident.listJson p.confirmed),
    ("new_followers", Ident.listJson p.added),
    ("unfollowers", Ident.listJson p.removed)]

/-- The compact JSON text of a tender's payload. -/
def FollowerStore.serialize (s : FollowerStore) (t : Ident) : Except FollowerError String :=
  (s.payload t).map fun p => p.toJson.compact

end TenderClient
