import TenderClient.Text.Blank
import TenderClient.Text.Percent
/-!
# Cookies

A Cookie header is a list of `name=value` pairs separated by `;`. The value of a named
cookie is the value of the first pair, blanks around it dropped, that begins with the name
and an `=`; its percent escapes are decoded, and a value that does not decode to UTF-8
text counts as absent. An empty name names nothing.
-/

set_option autoImplicit false

namespace TenderClient.Web

/-- What follows a prefix in a list of characters, if it begins with it. -/
def afterPrefix (pre : List Char) (l : List Char) : Option (List Char) :=
  if pre.isPrefixOf l then some (l.drop pre.length) else none

/-- The pairs of a Cookie header: the pieces between its `;`s, blanks around each dropped. -/
def cookiePairs (header : String) : List String :=
  (header.toList.splitOn ';').map fun piece => Text.trimBlank (String.ofList piece)

/-- The raw value of the first pair of a header that begins with `name=`. -/
def rawCookie (header name : String) : Option String :=
  (cookiePairs header).findSome? fun pair =>
    (afterPrefix (name.toList ++ ['=']) pair.toList).map String.ofList

/-- The decoded value of a named cookie in a Cookie header. -/
def cookieValue (header name : String) : Option String :=
  if name.isEmpty then none
  else (rawCookie header name).bind fun raw => Text.decode? (Text.percentDecode raw)

end TenderClient.Web
