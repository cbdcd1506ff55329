import TenderClient.Text.Utf8
import TenderClient.Text.Percent
import TenderClient.Web.Idna.ToAscii
/-!
# Web URLs

A request goes to a URL of the `http` or `https` scheme, read by the rules that browsers
follow and written back in their normal form, which is the form a request names in its
errors:

* blanks and controls at either end are dropped and tabs and line breaks anywhere;
* the scheme is lowercase, and any run of slashes or backslashes follows it;
* credentials before the last `@` are kept, escaped, and a password only if not empty;
* the host is mapped and checked as an internationalized domain name, its labels beyond
  ASCII written in Punycode (see `Idna.toAscii`); a host that ends in a number is an IPv4 address in four decimal parts, and a bracketed host is
  an IPv6 address in its shortest form;
* the port is dropped when it is the scheme's default;
* in the path a backslash is a slash, `.` and `..` segments are resolved, and characters
  outside printable ASCII (and space, `"`, `#`, `<`, `>`, `?`, backquote and braces) are
  percent-escaped as UTF-8; the query and fragment are escaped by their own sets.

Reading fails with one of the reasons of `UrlError`. Only the two web schemes are read:
any other text is taken as a URL with no scheme.
-/

set_option autoImplicit false

namespace TenderClient.Web

/-- Why a text is not a web URL. -/
inductive UrlError where
  | emptyHost
  /-- A host name that is no internationalized domain name. -/
  | invalidDomain
  | invalidPort
  | invalidIpv4
  | invalidIpv6
  /-- A text without a scheme. -/
  | relativeWithoutBase
deriving Repr, DecidableEq

namespace UrlError

/-- The name of the reason. -/
def name : UrlError → String
  | .emptyHost => "EmptyHost"
  | .invalidDomain => "IdnaError"
  | .invalidPort => "InvalidPort"
  | .invalidIpv4 => "InvalidIpv4Address"
  | .invalidIpv6 => "InvalidIpv6Address"
  | .relativeWithoutBase => "RelativeUrlWithoutBase"

/-- The sentence for the reason. -/
def message : UrlError → String
  | .emptyHost => "empty host"
  | .invalidDomain => "invalid international domain name"
  | .invalidPort => "invalid port number"
  | .invalidIpv4 => "invalid IPv4 address"
  | .invalidIpv6 => "invalid IPv6 address"
  | .relativeWithoutBase => "relative URL without a base"

end UrlError

/-! ## Escaping -/

/-- Characters escaped in every part: controls, and all beyond `~`. -/
def escapedEverywhere (c : Char) : Bool := c.toNat < 0x20 || c.toNat > 0x7E

/-- Characters escaped in a fragment. -/
def escapedInFragment (c : Char) : Bool := escapedEverywhere c || " \"<>\x60".toList.contains c

/-- Characters escaped in a query of a web URL. -/
def escapedInQuery (c : Char) : Bool := escapedEverywhere c || " \"#<>'".toList.contains c

/-- Characters escaped in a path segment. -/
def escapedInPath (c : Char) : Bool :=
  escapedEverywhere c || " \"#<>?\x60\x7b\x7d".toList.contains c

/-- Characters escaped in a user name or password. -/
def escapedInCredentials (c : Char) : Bool := escapedInPath c || "/:;=@[\\]^|".toList.contains c

/-- A character as it is written: itself, or each byte of its UTF-8 form as `%XX`. -/
def escapeChar (escaped : Char → Bool) (c : Char) : List Char :=
  if escaped c then
    (Text.encodeChar c).flatMap fun b => ['%', Text.hexUpper (b.toNat / 16), Text.hexUpper (b.toNat % 16)]
  else [c]

/-- Characters with those of a set escaped. -/
def escapeAll (escaped : Char → Bool) (cs : List Char) : String :=
  String.ofList (cs.flatMap (escapeChar escaped))

/-! ## Hosts -/

/-- The host of a web URL. -/
inductive Host where
  | domain (name : String)
  /-- An IPv4 address as one 32-bit number. -/
  | ipv4 (address : Nat)
  /-- An IPv6 address as its eight 16-bit pieces. -/
  | ipv6 (pieces : List Nat)
deriving Repr, DecidableEq

/-- Lowercase hexadecimal digits of a number, at least one. -/
def hexLower (n : Nat) : String :=
  String.ofList ((Nat.toDigits 16 n).map Char.toLower)

/-- The first longest run of two or more zero pieces, as its start and length. -/
def longestZeroRun (pieces : List Nat) : Option (Nat × Nat) :=
  let step (acc : Option (Nat × Nat) × Option Nat) (ip : Nat × Nat) :=
    let (best, start) := acc
    let (p, i) := ip
    if p == 0 then
      let s := start.getD i
      let len := i + 1 - s
      let best := match best with
        | some (_, bl) => if len > bl then some (s, len) else best
        | none => some (s, len)
      (best, some s)
    else (best, none)
  match (pieces.zipIdx.foldl step (none, none)).1 with
  | some (s, len) => if len ≥ 2 then some (s, len) else none
  | none => none

/-- An IPv6 address in its shortest form: hexadecimal pieces, the first longest run of zero
pieces written `::`. -/
def renderIpv6 (pieces : List Nat) : String :=
  let hex (l : List Nat) := ":".intercalate (l.map hexLower)
  match longestZeroRun pieces with
  | some (s, len) => hex (pieces.take s) ++ "::" ++ hex (pieces.drop (s + len))
  | none => hex pieces

/-- The host as it is written in a URL. -/
def Host.render : Host → String
  | .domain name => name
  | .ipv4 a =>
    ".".intercalate ([a / Nat.pow 2 24, a / Nat.pow 2 16 % 256, a / Nat.pow 2 8 % 256, a % 256].map Nat.repr)
  | .ipv6 pieces => "[" ++ renderIpv6 pieces ++ "]"

/-! ### IPv4 -/

/-- One part of an IPv4 address: decimal, octal after a leading zero, or hexadecimal after
`0x`; none if it is malformed, and a number past 32 bits if it overflows. -/
def ipv4Number (part : List Char) : Option Nat :=
  if part.isEmpty then none
  else
    let (radix, digits) := match part with
      | '0' :: 'x' :: rest | '0' :: 'X' :: rest => (16, rest)
      | '0' :: rest@(_ :: _) => (8, rest)
      | _ => (10, part)
    let value (c : Char) : Option Nat :=
      if c.isDigit then some (c.toNat - 48)
      else if 'a' ≤ c && c ≤ 'f' then some (c.toNat - 87)
      else if 'A' ≤ c && c ≤ 'F' then some (c.toNat - 55)
      else none
    digits.foldlM (fun acc c => match value c with
      | some d => if d < radix then some (min (acc * radix + d) (Nat.pow 2 32)) else none
      | none => none) 0

/-- Whether a host name ends in a number, which makes it an IPv4 address: its last label
(a final empty label aside) is digits or a well-formed number. -/
def endsInNumber (name : List Char) : Bool :=
  let labels := (String.ofList name).splitOn "."
  let last := match labels.reverse with
    | "" :: prev :: _ => some prev
    | [""] => none
    | l :: _ => some l
    | [] => none
  match last with
  | none => false
  | some l => (!l.isEmpty && l.toList.all Char.isDigit) || (ipv4Number l.toList).isSome

/-- An IPv4 address of one to four numbers: all but the last below 256, the last filling
the bytes that are left. -/
def parseIpv4 (name : List Char) : Except UrlError Nat := do
  let labels := (String.ofList name).splitOn "."
  let labels := if labels.getLast? == some "" then labels.dropLast else labels
  if labels.length > 4 then throw .invalidIpv4
  let numbers ← labels.mapM fun l => match ipv4Number l.toList with
    | some n => if n < Nat.pow 2 32 then pure n else throw .invalidIpv4
    | none => throw .invalidIpv4
  match numbers.reverse with
  | [] => throw .invalidIpv4
  | last :: firstRev =>
    let first := firstRev.reverse
    if last ≥ Nat.pow 2 (8 * (4 - first.length)) then throw .invalidIpv4
    if first.any (· > 255) then throw .invalidIpv4
    pure (first.zipIdx.foldl (fun acc (n, i) => acc + n * Nat.pow 2 (8 * (3 - i))) last)

/-! ### IPv6 -/

/-- The value of a hexadecimal digit. -/
def hexDigit? (c : Char) : Option Nat :=
  if c.isDigit then some (c.toNat - 48)
  else if 'a' ≤ c && c ≤ 'f' then some (c.toNat - 87)
  else if 'A' ≤ c && c ≤ 'F' then some (c.toNat - 55)
  else none

/-- Up to four hexadecimal digits: their value and what follows them. -/
def hexPiece (cs : List Char) : Nat × Nat × List Char :=
  let digits := (cs.take 4).takeWhile fun c => (hexDigit? c).isSome
  (digits.foldl (fun acc c => acc * 16 + (hexDigit? c).getD 0) 0, digits.length, cs.drop digits.length)

/-- The dotted IPv4 tail of an IPv6 address: exactly four decimal numbers below 256, without
leading zeros, given as two pieces. -/
def ipv4Tail (cs : List Char) : Except UrlError (List Nat) := do
  let parts := (String.ofList cs).splitOn "."
  if parts.length != 4 then throw .invalidIpv6
  let numbers ← parts.mapM fun p =>
    let ds := p.toList
    if ds.isEmpty || !ds.all Char.isDigit || (ds.length > 1 && ds.head? == some '0') then
      throw UrlError.invalidIpv6
    else
      let n := ds.foldl (fun acc c => acc * 10 + (c.toNat - 48)) 0
      if n > 255 then throw UrlError.invalidIpv6 else pure n
  match numbers with
  | [a, b, c, d] => pure [a * 256 + b, c * 256 + d]
  | _ => throw .invalidIpv6

/-- The pieces of an IPv6 address, read from left to right: pieces before a `::`, and
pieces after it once one was met. A `::` stands for at least one zero piece. -/
def ipv6Pieces (fuel : Nat) (cs : List Char) (before : List Nat) (after : Option (List Nat)) :
    Except UrlError (List Nat × Option (List Nat)) :=
  match fuel with
  | 0 => throw .invalidIpv6
  | fuel + 1 =>
    let count := before.length + (after.map fun a => a.length + 1).getD 0
    let push (l : List Nat) : List Nat × Option (List Nat) := match after with
      | some a => (before, some (a ++ l))
      | none => (before ++ l, none)
    match cs with
    | [] => pure (before, after)
    | ':' :: rest =>
      if count ≥ 8 || after.isSome then throw .invalidIpv6
      else ipv6Pieces fuel rest before (some [])
    | _ =>
      if count ≥ 8 then throw .invalidIpv6
      else
        let (value, width, rest) := hexPiece cs
        match rest with
        | '.' :: _ =>
          if width == 0 || count > 6 then throw .invalidIpv6
          else do
            let tail ← ipv4Tail cs
            pure (push tail)
        | [':'] => throw .invalidIpv6
        | ':' :: more =>
          let (b, a) := push [value]
          ipv6Pieces fuel more b a
        | [] => pure (push [value])
        | _ => throw .invalidIpv6

/-- An IPv6 address between brackets: eight pieces, or fewer around one `::`. -/
def parseIpv6 (cs : List Char) : Except UrlError (List Nat) := do
  if cs.length < 2 then throw .invalidIpv6
  let (start, before, after) ← match cs with
    | ':' :: ':' :: rest => pure (rest, ([] : List Nat), some ([] : List Nat))
    | ':' :: _ => throw UrlError.invalidIpv6
    | _ => pure (cs, [], none)
  let (before, after) ← ipv6Pieces (cs.length + 1) start before after
  match after with
  | some a =>
    if before.length + a.length > 7 then throw .invalidIpv6
    else pure (before ++ List.replicate (8 - before.length - a.length) 0 ++ a)
  | none => if before.length == 8 then pure before else throw .invalidIpv6

/-- Reads a host: a bracketed IPv6 address, or a name whose escapes are decoded, which is
an IPv4 address when it ends in a number. -/
def Host.parse (cs : List Char) : Except UrlError Host := do
  if cs.isEmpty then throw .emptyHost
  if cs.head? == some '[' then
    if cs.getLast? != some ']' then throw .invalidIpv6
    return .ipv6 (← parseIpv6 ((cs.drop 1).dropLast))
  let name ← match Text.decode? (Text.percentDecode (String.ofList cs)) with
    | some s => pure s
    | none => throw UrlError.invalidDomain
  let some ascii := Idna.toAscii name | throw UrlError.invalidDomain
  if ascii.isEmpty then throw .emptyHost
  if endsInNumber ascii.toList then return .ipv4 (← parseIpv4 ascii.toList)
  return .domain ascii

/-! ## URLs -/

/-- A web URL in its parts, each already escaped. -/
structure Url where
  secure : Bool
  username : String := ""
  password : String := ""
  host : Host
  port : Option Nat := none
  /-- The path segments; never empty. -/
  path : List String := [""]
  query : Option String := none
  fragment : Option String := none
deriving Repr, DecidableEq

namespace Url

/-- The default port of the scheme. -/
def defaultPort (u : Url) : Nat := if u.secure then 443 else 80

/-- The URL in its normal form. -/
def render (u : Url) : String :=
  let credentials :=
    if u.username.isEmpty && u.password.isEmpty then ""
    else u.username ++ (if u.password.isEmpty then "" else ":" ++ u.password) ++ "@"
  (if u.secure then "https" else "http") ++ "://" ++ credentials ++ u.host.render ++
    (u.port.elim "" fun p => ":" ++ Nat.repr p) ++ "/" ++ "/".intercalate u.path ++
    (u.query.elim "" ("?" ++ ·)) ++ (u.fragment.elim "" ("#" ++ ·))

/-- The target of a request: the path and query. -/
def target (u : Url) : String :=
  "/" ++ "/".intercalate u.path ++ (u.query.elim "" ("?" ++ ·))

/-- Whether a path segment is `.`, or `%2e` in either case. -/
def isDot (s : String) : Bool := s == "." || s == "%2e" || s == "%2E"

/-- Whether a path segment is `..`, with either dot possibly written `%2e`. -/
def isDoubleDot (s : String) : Bool :=
  let cs := s.toList
  match cs with
  | ['.', '.'] => true
  | '.' :: rest => isDot (String.ofList rest) && rest.length == 3
  | _ =>
    if cs.length == 4 then isDot (String.ofList (cs.take 3)) && cs.drop 3 == ['.']
    else if cs.length == 6 then isDot (String.ofList (cs.take 3)) && isDot (String.ofList (cs.drop 3))
    else false

/-- Adds a segment to a path as it is read: `..` removes the last segment, `.` adds
nothing, and either one at the end leaves an empty last segment. -/
def addSegment (path : List String) (segment : String) (last : Bool) : List String :=
  if isDoubleDot segment then
    let path := path.dropLast
    if last then path ++ [""] else path
  else if isDot segment then
    if last then path ++ [""] else path
  else path ++ [segment]

/-- The pieces of a text between slashes or backslashes. -/
def splitSegments : List Char → List (List Char)
  | [] => [[]]
  | c :: rest =>
    let pieces := splitSegments rest
    if c == '/' || c == '\\' then [] :: pieces
    else match pieces with
      | p :: more => (c :: p) :: more
      | [] => [[c]]

/-- The segments of a path, separated by slashes or backslashes, escaped and resolved. -/
def parsePath (cs : List Char) : List String :=
  let cs := match cs with
    | '/' :: rest | '\\' :: rest => rest
    | _ => cs
  let pieces := (splitSegments cs).map (escapeAll escapedInPath)
  let n := pieces.length
  pieces.zipIdx.foldl (fun path (p, i) => addSegment path p (i + 1 == n)) []

/-- The credentials before the last `@` of an authority: a user name, and a password after
the first colon. -/
def parseCredentials (cs : List Char) : String × String :=
  match cs.span (· != ':') with
  | (user, []) => (escapeAll escapedInCredentials user, "")
  | (user, _ :: pass) =>
    (escapeAll escapedInCredentials user, escapeAll escapedInCredentials pass)

/-- A port after a colon: digits, at most 65535; none for no digits. -/
def parsePort (cs : List Char) : Except UrlError (Option Nat) :=
  if !cs.all Char.isDigit then throw .invalidPort
  else
    let n := cs.foldl (fun acc c => min (acc * 10 + (c.toNat - 48)) 65536) 0
    if n > 65535 then throw .invalidPort
    else pure (if cs.isEmpty then none else some n)

/-- Splits a host and port at the first colon outside brackets. -/
def splitHostPort (cs : List Char) : List Char × List Char :=
  let rec go (inside : Bool) : List Char → List Char × List Char
    | [] => ([], [])
    | c :: rest =>
      if c == ':' && !inside then ([], c :: rest)
      else
        let inside := if c == '[' then true else if c == ']' then false else inside
        let (h, p) := go inside rest
        (c :: h, p)
  go false cs

/-- Whether a character ends an authority. -/
def endsAuthority (c : Char) : Bool := c == '/' || c == '\\' || c == '?' || c == '#'

/-- Whether a character is a control or space, dropped at the ends of a URL. -/
def isControlOrSpace (c : Char) : Bool := c.toNat ≤ 0x20

/-- Reads a web URL. -/
def parse (text : String) : Except UrlError Url := do
  let cs := (text.toList.dropWhile isControlOrSpace).reverse.dropWhile isControlOrSpace |>.reverse
  let cs := cs.filter fun c => c != '\t' && c != '\n' && c != '\r'
  let lower := cs.map Char.toLower
  let (secure, rest) ←
    if "https:".toList.isPrefixOf lower then pure (true, cs.drop 6)
    else if "http:".toList.isPrefixOf lower then pure (false, cs.drop 5)
    else throw UrlError.relativeWithoutBase
  let rest := rest.dropWhile fun c => c == '/' || c == '\\'
  let authority := rest.takeWhile (!endsAuthority ·)
  let rest := rest.dropWhile (!endsAuthority ·)
  let (credentials, hostPort) := match authority.reverse.span (· != '@') with
    | (_, []) => (none, authority)
    | (hostRev, _ :: credRev) => (some credRev.reverse, hostRev.reverse)
  let (hostText, portText) := splitHostPort hostPort
  let host ← Host.parse hostText
  let port ← match portText with
    | ':' :: digits => parsePort digits
    | _ => pure none
  let (username, password) := (credentials.map parseCredentials).getD ("", "")
  let pathText := rest.takeWhile fun c => c != '?' && c != '#'
  let rest := rest.dropWhile fun c => c != '?' && c != '#'
  let (queryText, fragmentText) := match rest with
    | '?' :: more =>
      (some (more.takeWhile (· != '#')), (more.dropWhile (· != '#')).tail?)
    | '#' :: more => (none, some more)
    | _ => (none, none)
  let u : Url :=
    { secure, username, password, host, path := parsePath pathText,
      query := queryText.map (escapeAll escapedInQuery),
      fragment := fragmentText.map (escapeAll escapedInFragment) }
  pure { u with port := port.filter (· != u.defaultPort) }

end Url

end TenderClient.Web
