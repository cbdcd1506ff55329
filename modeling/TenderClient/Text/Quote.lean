import TenderClient.Unicode.Category
/-!
# Quoted text in messages

Messages that show a text the user gave write it between double quotes with the characters
that would be ambiguous or invisible escaped: the quote and the backslash by a backslash,
tab, line feed, carriage return and NUL by their letters, and the other characters that
`Unicode.isEscapedInQuotes` names (controls, format characters, separators, unassigned
and private code points, marks that extend the character before them) as `\u{hex}`.
-/

set_option autoImplicit false

namespace TenderClient.Text

/-- Lowercase hexadecimal digits of a number, without leading zeros. -/
def hexLower (n : Nat) : String :=
  String.ofList (Nat.toDigits 16 n)

/-- One character of a quoted text. -/
def quoteChar (c : Char) : List Char :=
  match c with
  | '"' => ['\\', '"']
  | '\\' => ['\\', '\\']
  | '\t' => ['\\', 't']
  | '\n' => ['\\', 'n']
  | '\r' => ['\\', 'r']
  | '\x00' => ['\\', '0']
  | c =>
    if Unicode.isEscapedInQuotes c then ['\\', 'u', '\x7b'] ++ (hexLower c.toNat).toList ++ ['\x7d']
    else [c]

/-- A text between double quotes, escaped as `quoteChar` says. -/
def quoted (s : String) : String :=
  String.ofList ('"' :: s.toList.flatMap quoteChar ++ ['"'])

end TenderClient.Text
