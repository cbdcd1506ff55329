import TenderClient.Ident
/-!
# Follower payloads

The body of a save: the confirmed followers, the users to add and the users to remove,
each a list of identifiers. A payload built from a diff lists each set in ascending order;
one read from a document keeps the order and repetitions it was given.
-/

set_option autoImplicit false

namespace TenderClient

/-- The three lists of a follower save. -/
structure FollowerPayload where
  confirmed : List Ident
  added : List Ident
  removed : List Ident
deriving DecidableEq

end TenderClient
