import TenderClient.Json.Decode
/-!
# Records from JSON values

Decoding records from a JSON value that was already read, as an object of fields or an
array of fields in order. A value of the wrong kind is refused as an invalid type; an
object's members are visited in the order of their keys. Problems carry no place: the
value has none.
-/

set_option autoImplicit false

namespace TenderClient.Json

open Decode

/-- The found kind of a value. -/
def found : Json → Found
  | .null => .unit
  | .bool b => .bool b
  | .number n => Reader.numberFound n
  | .string s => .str s
  | .array _ => .seq
  | .object _ => .map

/-- A string. -/
def asString (v : Json) : Except Problem String :=
  match v with
  | .string s => .ok s
  | v => .error (.invalidType (found v) "a string")

/-- A boolean. -/
def asBool (v : Json) : Except Problem Bool :=
  match v with
  | .bool b => .ok b
  | v => .error (.invalidType (found v) "a boolean")

/-- An unsigned 64-bit integer; a negative integer is an invalid value. -/
def asWord (v : Json) : Except Problem Nat :=
  match v with
  | .number (.nat n) => .ok n
  | .number (.neg x) => .error (.invalidValue (.signed x) "u64")
  | v => .error (.invalidType (found v) "u64")

/-- `null` for nothing, or a value. -/
def asOption {α : Type} (f : Json → Except Problem α) (v : Json) : Except Problem (Option α) :=
  match v with
  | .null => .ok none
  | v => some <$> f v

/-- An array of values. -/
def asList {α : Type} (f : Json → Except Problem α) (v : Json) : Except Problem (List α) :=
  match v with
  | .array items => items.mapM f
  | v => .error (.invalidType (found v) "a sequence")

/-- An identifier. -/
def asIdent (v : Json) : Except Problem Ident := Reader.identOf v

/-- A record from an object, its members visited in the order of their keys, or from an
array of its fields; an array with more items than fields is refused. -/
def asRecord {α σ : Type} (expected : String) (fieldCount : Nat) (init : σ)
    (member : σ → String → Json → Except Problem σ) (finish : σ → Except Problem α)
    (fromFields : List Json → Except Problem α) (v : Json) : Except Problem α :=
  match v with
  | .object members => do
    let st ← (sortMembers members).foldlM (fun st m => member st m.1 m.2) init
    finish st
  | .array items =>
    if items.length > fieldCount then
      -- the record takes its fields first, then the surplus is refused
      match fromFields (items.take fieldCount) with
      | .error p => .error p
      | .ok _ => .error (.invalidLength items.length "fewer elements in array")
    else fromFields items
  | v => .error (.invalidType (found v) expected)

/-- Sets a field once; a second value for it is refused. -/
def setOnce {α : Type} (name : String) (current : Option α) (r : Except Problem α) :
    Except Problem α :=
  match current with
  | some _ => .error (.duplicateField name)
  | none => r

/-- One member of a user record. -/
def userMember (st : Reader.UserFields) (key : String) (v : Json) :
    Except Problem Reader.UserFields :=
  if key = "id" then do pure { st with id := some (← setOnce "id" st.id (asIdent v)) }
  else if key = "username" then do
    pure { st with username := some (← setOnce "username" st.username (asString v)) }
  else if key = "email" then do
    pure { st with email := some (← setOnce "email" st.email (asOption asString v)) }
  else if key = "is_follower" then do
    pure { st with isFollower := some (← setOnce "is_follower" st.isFollower (asBool v)) }
  else pure st

/-- A user record from its members. -/
def userFinish (st : Reader.UserFields) : Except Problem UserRecord :=
  match st.id, st.username with
  | some id, some username =>
    .ok { id, username, email := st.email.getD none, isFollower := st.isFollower.getD false }
  | none, _ => .error (.missingField "id")
  | some _, none => .error (.missingField "username")

/-- A user record from the array of its fields. -/
def userFields (items : List Json) : Except Problem UserRecord := do
  let expected := "struct UserRecord with 4 elements"
  match items with
  | [] => .error (.invalidLength 0 expected)
  | [a] => do
    let _ ← asIdent a
    .error (.invalidLength 1 expected)
  | a :: b :: rest => do
    let id ← asIdent a
    let username ← asString b
    let email ← match rest with
      | e :: _ => asOption asString e
      | [] => pure none
    let isFollower ← match rest with
      | _ :: f :: _ => asBool f
      | _ => pure false
    pure { id, username, email, isFollower }

/-- A user record. -/
def asUserRecord (v : Json) : Except Problem UserRecord :=
  asRecord "struct UserRecord" 4 {} userMember userFinish userFields v

end TenderClient.Json
