import TenderClient.Ident
/-!
# User records

One row of the server's listing of users for a tender: who the user is, how to reach them
and whether they follow the tender.
-/

set_option autoImplicit false

namespace TenderClient

/-- A user as the listing reports them. -/
structure UserRecord where
  id : Ident
  username : String
  /-- The address, when the server sent one. -/
  email : Option String := none
  /-- Whether the user follows the tender; absent means no. -/
  isFollower : Bool := false
deriving DecidableEq

/-- The address to show: a missing or blank address reads as `no email`. -/
def UserRecord.displayEmail (u : UserRecord) : String :=
  match u.email with
  | some e => if (Text.trimBlank e).isEmpty then "no email" else e
  | none => "no email"

end TenderClient
