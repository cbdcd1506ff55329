import TenderClient.Text.Blank
import TenderClient.Text.Digits
/-!
# Identifiers

Tenders and users are named by positive integers that fit in 64 bits. An identifier is read
once, where it enters: from a text (blanks around it are dropped, a `+` is allowed), from a
signed integer, or from the shapes a document can carry (`IdForm`). Zero, negative values
and anything that is no number are refused with an `IdError` that says which.

Main statements: `ofText_val` (a reading returns the number written) and
`ofText_eq_error_empty_iff` (the empty error is exactly the blank text).
-/

set_option autoImplicit false

namespace TenderClient

/-- A positive identifier of a tender or a user, below `2^64`. -/
structure Ident where
  /-- The number that names the tender or user. -/
  val : Nat
  pos : 0 < val
  lt : val < Text.wordSize
deriving DecidableEq

/-- Why a value is no identifier. -/
inductive IdError where
  /-- Nothing but blanks was given. -/
  | empty
  /-- The text, trimmed, is no integer. -/
  | notNumeric (text : String)
  /-- The integer is zero or negative. -/
  | notPositive (value : Int)
deriving DecidableEq, Repr

namespace IdError

/-- The sentence that reports the error. -/
def message : IdError → String
  | .empty => "identifier is empty"
  | .notNumeric text => "identifier '" ++ text ++ "' is not a number"
  | .notPositive value => "identifier must be positive, got " ++ toString value

end IdError

/-- The shapes in which a document carries an identifier: an unsigned 64-bit integer, a
signed one, or a text that holds one. -/
inductive IdForm where
  | unsigned (n : Nat)
  | signed (v : Int)
  | text (s : String)
deriving DecidableEq, Repr

namespace Ident

instance : LT Ident := ⟨fun a b => a.val < b.val⟩

instance (a b : Ident) : Decidable (a < b) := Nat.decLt a.val b.val

instance : Ord Ident := ⟨fun a b => compare a.val b.val⟩

theorem ext {a b : Ident} (h : a.val = b.val) : a = b := by
  cases a
  cases b
  cases h
  rfl

theorem lt_iff (a b : Ident) : a < b ↔ a.val < b.val := Iff.rfl

/-- The decimal text of an identifier. -/
def render (i : Ident) : String := Nat.repr i.val

/-- The identifier with a given value, when the value is positive and below `2^64`. -/
def ofNat? (n : Nat) : Option Ident :=
  if h : 0 < n ∧ n < Text.wordSize then some ⟨n, h.1, h.2⟩ else none

/-- The identifier with a signed 64-bit value, which must be positive. -/
def ofInt (v : Int) : Except IdError Ident :=
  match ofNat? v.toNat with
  | some i => if 0 < v then .ok i else .error (.notPositive v)
  | none => .error (.notPositive v)

/-- Reads an identifier from a text: blanks around it are dropped, an unsigned 64-bit
decimal names it, zero or a signed 64-bit decimal is not positive, and anything else is
no number. -/
def ofText (s : String) : Except IdError Ident :=
  let t := Text.trimBlank s
  if t.isEmpty then .error .empty
  else match Text.readUnsigned t with
    | some n =>
      match ofNat? n with
      | some i => .ok i
      | none => .error (.notPositive 0)
    | none =>
      match Text.readSigned t with
      | some v => .error (.notPositive v)
      | none => .error (.notNumeric t)

/-- The identifier a document carries: an unsigned zero is not positive, a signed value
must be positive, and a text is read as by `ofText`. -/
def ofForm : IdForm → Except IdError Ident
  | .unsigned n =>
    match ofNat? n with
    | some i => .ok i
    | none => .error (.notPositive 0)
  | .signed v => ofInt v
  | .text s => ofText s

theorem ofNat?_val {n : Nat} {i : Ident} (h : ofNat? n = some i) : i.val = n := by
  unfold ofNat? at h
  split at h
  · cases h
    rfl
  · cases h

theorem ofText_val {s : String} {i : Ident} (h : ofText s = .ok i) :
    Text.readUnsigned (Text.trimBlank s) = some i.val := by
  unfold ofText at h
  simp only at h
  split at h
  · cases h
  · split at h
    · rename_i n hn
      split at h
      · rename_i j hj
        cases h
        rw [hn, ofNat?_val hj]
      · cases h
    · split at h <;> cases h

theorem ofText_eq_error_empty_iff (s : String) :
    ofText s = .error .empty ↔ (Text.trimBlank s).isEmpty = true := by
  unfold ofText
  simp only
  split
  · simp_all
  · rename_i hne
    simp only [hne]
    split
    · split <;> simp
    · split <;> simp

example : ((ofText " 7 ").toOption.map render) = some "7" := by
  decide

end Ident

end TenderClient
