import TenderClient.Unicode.Category
import TenderClient.Unicode.Bidi
import TenderClient.Unicode.Joining
import TenderClient.Unicode.Normalize
import TenderClient.Web.Idna.Mapping
import TenderClient.Web.Idna.Punycode
/-!
# Domain names in ASCII

A host name is turned into the ASCII form that travels on the wire in four steps:

1. every character is mapped (kept, dropped, replaced or refused) and the result put in
   its canonically composed form;
2. the name is cut into labels at dots; a label that starts with `xn--` is Punycode and is
   decoded, which must give a label beyond ASCII;
3. every label is checked: composed, made of characters the mapping keeps and that may
   stand in a host (no controls, space, delete or `%#/:<>?@[\]^|`), not starting with a mark
   or with `xn--`, and with a joiner only where the joining rules allow it; when some label
   holds a right-to-left character, every label must also follow the bidirectional rule;
4. each label beyond ASCII is written as `xn--` and its Punycode.

Any failure makes the name no domain name; the checks of label length and of hyphens are
not made.
-/

set_option autoImplicit false

namespace TenderClient.Web.Idna

open Unicode

/-- Characters no host may hold: controls, space, delete and `%#/:<>?@[\]^|`. -/
def forbidden (c : Char) : Bool :=
  c.toNat ≤ 0x20 || c.toNat == 0x7F || "%#/:<>?@[\\]^|".contains c

/-- The characters of a name after mapping; none when one is refused. -/
def mapChars (cs : List Char) : Option (List Char) :=
  (cs.mapM fun c => match mappingOf c with
    | .keep | .deviation => some [c]
    | .drop => some []
    | .replace text => some text
    | .refuse => none).map List.flatten

/-- Whether a character may stand in a label as it is. -/
def allowedInLabel (c : Char) : Bool :=
  !forbidden c && match mappingOf c with
    | .keep | .deviation => true
    | _ => false

/-- Whether a character has the combining class of a virama. -/
def isVirama (c : Char) : Bool := combiningClass c.toNat == 9

/-- The joining type of the nearest character that is not transparent. -/
def nearestJoining (cs : List Char) : Option JoiningType :=
  (cs.dropWhile (joiningType · == .transparent)).head?.map joiningType

/-- Whether a joiner may stand between the characters before it (nearest first) and after
it: a zero width joiner only after a virama, a zero width non-joiner after a virama or
between a character joining to the right and one joining to the left. -/
def joinerAllowed (before : List Char) (c : Char) (after : List Char) : Bool :=
  let afterVirama := match before with
    | p :: _ => isVirama p
    | [] => false
  if c == '\u200D' then afterVirama
  else if c == '\u200C' then
    afterVirama ||
      ((nearestJoining before == some .left || nearestJoining before == some .dual) &&
        (nearestJoining after == some .right || nearestJoining after == some .dual))
  else true

/-- Whether every joiner of a label stands where it is allowed. -/
def joinersAllowed : List Char → List Char → Bool
  | _, [] => true
  | before, c :: after => joinerAllowed before c after && joinersAllowed (c :: before) after

/-- Whether a character reads right to left or is an Arabic digit. -/
def isRightToLeft (c : Char) : Bool :=
  match bidiClass c with
  | .rightToLeft | .arabicLetter | .arabicNumber => true
  | _ => false

/-- The classes that may stand in a label that starts right to left. -/
def rightToLeftAllowed (b : BidiClass) : Bool :=
  match b with
  | .rightToLeft | .arabicLetter | .arabicNumber | .europeanNumber | .europeanSeparator
  | .commonSeparator | .europeanTerminator | .otherNeutral | .boundaryNeutral
  | .nonspacingMark => true
  | _ => false

/-- The classes that may stand in a label that starts left to right. -/
def leftToRightAllowed (b : BidiClass) : Bool :=
  match b with
  | .leftToRight | .europeanNumber | .europeanSeparator | .commonSeparator
  | .europeanTerminator | .otherNeutral | .boundaryNeutral | .nonspacingMark => true
  | _ => false

/-- Whether a label follows the bidirectional rule: it starts with a letter; a label that
starts right to left holds no left-to-right letter, ends (but for marks) with a
right-to-left letter or a number, and does not mix European and Arabic digits; a label that
starts left to right holds no right-to-left character and ends (but for marks) with a
left-to-right letter or a European digit. -/
def followsBidiRule (label : List Char) : Bool :=
  let classes := label.map bidiClass
  let last := (classes.reverse.dropWhile (· == .nonspacingMark)).head?
  match classes with
  | [] => true
  | first :: _ =>
    match first with
    | .rightToLeft | .arabicLetter =>
      classes.all rightToLeftAllowed &&
        (last == some .rightToLeft || last == some .arabicLetter ||
          last == some .europeanNumber || last == some .arabicNumber) &&
        !(classes.contains .europeanNumber && classes.contains .arabicNumber)
    | .leftToRight =>
      classes.all leftToRightAllowed &&
        (last == some .leftToRight || last == some .europeanNumber)
    | _ => false

/-- Whether a label in its Unicode form passes the checks every label must pass. -/
def labelValid (label : List Char) : Bool :=
  isComposed (String.ofList label) && label.all allowedInLabel &&
    !(label.take 4 == "xn--".toList) && !(label.head?.map isMark).getD false &&
    joinersAllowed [] label

/-- A label in its Unicode form and in ASCII, or none when it is refused. -/
def convertLabel (label : List Char) : Option (List Char × List Char) :=
  if label.take 4 == "xn--".toList then
    if label.any (·.toNat ≥ 128) then none
    else
      (Punycode.decode? (label.drop 4)).bind fun decoded =>
        if decoded.isEmpty || decoded.all (·.toNat < 128) || !labelValid decoded then none
        else some (decoded, label)
  else if label.all (fun c => c.toNat < 128 && allowedInLabel c) then some (label, label)
  else if !labelValid label then none
  else if label.all (·.toNat < 128) then some (label, label)
  else some (label, "xn--".toList ++ Punycode.encode label)

/-- The ASCII form of a host name, or none when it is no domain name. -/
def toAscii (name : String) : Option String := do
  let mapped ← mapChars name.toList
  let labels := ((composed (String.ofList mapped)).splitOn ".").map String.toList
  let converted ← labels.mapM convertLabel
  if converted.any (·.1.any isRightToLeft) && !converted.all (followsBidiRule ·.1) then none
  return ".".intercalate (converted.map fun l => String.ofList l.2)

end TenderClient.Web.Idna
