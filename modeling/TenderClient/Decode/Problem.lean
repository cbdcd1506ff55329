import TenderClient.Ident
import TenderClient.Tag
import TenderClient.Decimal.FloatText
import TenderClient.Text.Quote
/-!
# Decoding problems

What can be wrong with a document that is read into a record, whatever its format: a value
of the wrong kind, a list of the wrong length, a field missing or given twice, an
identifier or tag that is refused. The words differ a little between formats (a JSON null
is `null`, a YAML one a `unit value`; floats are written in different styles), so the
text of a problem takes a `Wording`.
-/

set_option autoImplicit false

namespace TenderClient.Decode

/-- The kind of value a document held where another kind was expected. -/
inductive Found where
  | unit
  | bool (b : Bool)
  | unsigned (n : Nat)
  | signed (v : Int)
  | float (f : Float)
  | str (s : String)
  | seq
  | map
  /-- A value described by its own words. -/
  | other (text : String)

/-- How a format names found values. -/
structure Wording where
  /-- The word for an empty value. -/
  unit : String
  /-- The style floats are written in. -/
  float : Decimal.FloatStyle

/-- JSON names the empty value `null` and writes floats compactly. -/
def Wording.json : Wording := ⟨"null", Decimal.FloatStyle.compact⟩

/-- YAML names the empty value `unit value` and writes floats positionally. -/
def Wording.yaml : Wording := ⟨"unit value", Decimal.FloatStyle.positional⟩

/-- The description of a found value. -/
def Found.describe (w : Wording) : Found → String
  | .unit => w.unit
  | .bool b => "boolean `" ++ (if b then "true" else "false") ++ "`"
  | .unsigned n => "integer `" ++ Nat.repr n ++ "`"
  | .signed v => "integer `" ++ toString v ++ "`"
  | .float f => "floating point `" ++ Decimal.renderFloat w.float f ++ "`"
  | .str s => "string " ++ Text.quoted s
  | .seq => "sequence"
  | .map => "map"
  | .other text => text

/-- A reason a document does not decode. -/
inductive Problem where
  | invalidType (found : Found) (expected : String)
  | invalidValue (found : Found) (expected : String)
  | invalidLength (length : Nat) (expected : String)
  | missingField (name : String)
  | duplicateField (name : String)
  /-- No shape of an identifier fits the value. -/
  | noIdShape
  /-- A value tagged as a variant where an identifier of any shape was expected. -/
  | variantForIdShape
  | ident (e : IdError)
  | tag (e : TagError)

/-- The sentence that reports a problem. -/
def Problem.text (w : Wording) : Problem → String
  | .invalidType found expected =>
    "invalid type: " ++ found.describe w ++ ", expected " ++ expected
  | .invalidValue found expected =>
    "invalid value: " ++ found.describe w ++ ", expected " ++ expected
  | .invalidLength length expected =>
    "invalid length " ++ Nat.repr length ++ ", expected " ++ expected
  | .missingField name => "missing field `" ++ name ++ "`"
  | .duplicateField name => "duplicate field `" ++ name ++ "`"
  | .noIdShape => "data did not match any variant of untagged enum RawId"
  | .variantForIdShape => "untagged and internally tagged enums do not support enum input"
  | .ident e => e.message
  | .tag e => e.message

end TenderClient.Decode
