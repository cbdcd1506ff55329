import TenderClient.Json.Reader
import TenderClient.User
import TenderClient.Follower.Payload
/-!
# Records from JSON text

Readers for the records of this library, reading JSON text directly. Each reader expects
one kind of value; a value of another kind is read past and refused as an invalid type,
placed after it (or at its bracket, for an array or object).

A record is an object read member by member: an unknown member is skipped, a known one
given twice is refused at its key, and a missing one is refused when the object ends. A
record may also be an array of its fields in order, where trailing optional fields may be
left out. A problem met inside an array or object is placed where that array or object
ends.
-/

set_option autoImplicit false

namespace TenderClient.Json.Reader

open Decode

/-- The found kind of a number. -/
def numberFound : JsonNumber → Found
  | .nat n => .unsigned n
  | .neg v => .signed v
  | .float f => .float f

/-- Refuses the value at the current offset: a scalar is read past first, an array or
object is refused at its bracket. -/
def mismatch {α : Type} (expected : String) : Reader α := do
  let refuse (found : Found) : Reader α := do
    throw (← place ⟨.problem (.invalidType found expected), none⟩)
  match ← peek with
  | some 110 => do bump; expectWord restOfNull; refuse .unit
  | some 116 => do bump; expectWord restOfTrue; refuse (.bool true)
  | some 102 => do bump; expectWord restOfFalse; refuse (.bool false)
  | some 45 => do bump; refuse (numberFound (← number false))
  | some 34 => do bump; refuse (.str (← stringBody))
  | some 91 => refuse .seq
  | some 123 => refuse .map
  | some b =>
    if isDigitByte b then do
      refuse (numberFound (← number true))
    else failAhead .expectedSomeValue
  | none => failAhead .expectedSomeValue

/-- A string. -/
def string : Reader String := do
  match ← skipBlank with
  | none => failAhead .eofWhileParsingValue
  | some 34 => do bump; stringBody
  | some _ => mismatch "a string"

/-- A boolean. -/
def boolean : Reader Bool := do
  match ← skipBlank with
  | none => failAhead .eofWhileParsingValue
  | some 116 => do bump; expectWord restOfTrue; pure true
  | some 102 => do bump; expectWord restOfFalse; pure false
  | some _ => mismatch "a boolean"

/-- `null` for nothing, or a value. -/
def optional {α : Type} (r : Reader α) : Reader (Option α) := do
  match ← skipBlank with
  | some 110 => do bump; expectWord restOfNull; pure none
  | _ => some <$> r

/-- The identifier shape of a value, if it has one. -/
def idForm? : Json → Option IdForm
  | .number (.nat n) => some (.unsigned n)
  | .number (.neg v) => some (.signed v)
  | .string s => some (.text s)
  | _ => none

/-- The identifier a value names, or the problem with it. -/
def identOf (v : Json) : Except Problem Ident :=
  match idForm? v with
  | none => .error .noIdShape
  | some form => (Ident.ofForm form).mapError Problem.ident

/-- An identifier: any value, then read as `Ident.ofForm` reads its shape. -/
def ident : Reader Ident := do
  let v ← value
  match identOf v with
  | .ok i => pure i
  | .error p => problem p

/-- A tag name: a string, then trimmed and checked. -/
def tagName : Reader TagName := do
  let s ← string
  match TagName.ofString s with
  | .ok t => pure t
  | .error e => problem (.tag e)

/-- The items of an array, each read by `item`, up to its closing bracket. -/
def itemsOf {α : Type} (item : Reader α) : Nat → Bool → Reader (List α)
  | 0, _ => pure []
  | fuel + 1, first => do
    if ← itemFollows first then
      let v ← item
      let rest ← itemsOf item fuel false
      pure (v :: rest)
    else pure []

/-- An array of values read by `item`. -/
def sequence {α : Type} (item : Reader α) : Reader (List α) := do
  match ← skipBlank with
  | none => failAhead .eofWhileParsingValue
  | some 91 =>
    let c ← get
    bracketed (itemsOf item (c.bytes.size - c.pos + 1) true) closeArray
  | some _ => mismatch "a sequence"

/-- The next field of a record written as an array, if the array goes on. -/
def field {α : Type} (first : Bool) (r : Reader α) : Reader (Option α) := do
  if ← itemFollows first then some <$> r else pure none

/-- The members of an object: `member` reads the value of each key after its colon (or
refuses the key), threading a state. -/
def membersOf {σ : Type} (member : σ → String → Reader σ) : Nat → Bool → σ → Reader σ
  | 0, _, st => pure st
  | fuel + 1, first, st => do
    if ← memberFollows first then
      let key ← stringBody
      let st' ← member st key
      membersOf member fuel false st'
    else pure st

/-- The value of a member, after its colon. -/
def memberValue {α : Type} (r : Reader α) : Reader α := do
  colon
  r

/-- Skips the value of a member that is not known. -/
def skipMember : Reader Unit := do
  colon
  skipValue

/-- A record: an object read member by member and finished when it ends, or an array read
field by field. -/
def record {α σ : Type} (expected : String) (init : σ) (member : σ → String → Reader σ)
    (finish : σ → Reader α) (fromFields : Reader α) : Reader α := do
  match ← skipBlank with
  | none => failAhead .eofWhileParsingValue
  | some 123 =>
    let c ← get
    bracketed (do finish (← membersOf member (c.bytes.size - c.pos + 1) true init)) closeObject
  | some 91 => bracketed fromFields closeArray
  | some _ => mismatch expected

/-- Sets a field once; a second value for it is refused at its key. -/
def once {α : Type} (name : String) (current : Option α) (r : Reader α) : Reader α :=
  match current with
  | some _ => problem (.duplicateField name)
  | none => memberValue r

/-- The fields of a user record read so far. -/
structure UserFields where
  id : Option Ident := none
  username : Option String := none
  email : Option (Option String) := none
  isFollower : Option Bool := none

/-- One member of a user record. -/
def userMember (st : UserFields) (key : String) : Reader UserFields :=
  if key = "id" then do pure { st with id := some (← once "id" st.id ident) }
  else if key = "username" then do
    pure { st with username := some (← once "username" st.username string) }
  else if key = "email" then do
    pure { st with email := some (← once "email" st.email (optional string)) }
  else if key = "is_follower" then do
    pure { st with isFollower := some (← once "is_follower" st.isFollower boolean) }
  else do
    skipMember
    pure st

/-- A user record from its members: `id` and `username` are required. -/
def userFinish (st : UserFields) : Reader UserRecord :=
  match st.id, st.username with
  | some id, some username =>
    pure { id, username, email := st.email.getD none, isFollower := st.isFollower.getD false }
  | none, _ => problem (.missingField "id")
  | some _, none => problem (.missingField "username")

/-- A user record written as the array of its fields. -/
def userFields : Reader UserRecord := do
  let expected := "struct UserRecord with 4 elements"
  let some id ← field true ident | problem (.invalidLength 0 expected)
  let some username ← field false string | problem (.invalidLength 1 expected)
  let email ← field false (optional string)
  let isFollower ← field false boolean
  pure { id, username, email := email.getD none, isFollower := isFollower.getD false }

/-- A user record. -/
def userRecord : Reader UserRecord :=
  record "struct UserRecord" {} userMember userFinish userFields

/-- The lists of a payload read so far. -/
structure PayloadFields where
  confirmed : Option (List Ident) := none
  added : Option (List Ident) := none
  removed : Option (List Ident) := none

/-- One member of a payload. -/
def payloadMember (st : PayloadFields) (key : String) : Reader PayloadFields :=
  if key = "old_followers" then do
    pure { st with confirmed := some (← once "old_followers" st.confirmed (sequence ident)) }
  else if key = "new_followers" then do
    pure { st with added := some (← once "new_followers" st.added (sequence ident)) }
  else if key = "unfollowers" then do
    pure { st with removed := some (← once "unfollowers" st.removed (sequence ident)) }
  else do
    skipMember
    pure st

/-- A payload from its members: all three lists are required. -/
def payloadFinish (st : PayloadFields) : Reader FollowerPayload :=
  match st.confirmed, st.added, st.removed with
  | some a, some b, some c => pure ⟨a, b, c⟩
  | none, _, _ => problem (.missingField "old_followers")
  | some _, none, _ => problem (.missingField "new_followers")
  | some _, some _, none => problem (.missingField "unfollowers")

/-- A payload written as the array of its lists. -/
def payloadFields : Reader FollowerPayload := do
  let expected := "struct FollowerPayload with 3 elements"
  let some a ← field true (sequence ident) | problem (.invalidLength 0 expected)
  let some b ← field false (sequence ident) | problem (.invalidLength 1 expected)
  let some c ← field false (sequence ident) | problem (.invalidLength 2 expected)
  pure ⟨a, b, c⟩

/-- A payload. -/
def payload : Reader FollowerPayload :=
  record "struct FollowerPayload" {} payloadMember payloadFinish payloadFields

end TenderClient.Json.Reader
