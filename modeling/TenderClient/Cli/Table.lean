import TenderClient.User
/-!
# User tables

The follower listing is shown as a table with rounded corners: a header row, a rule under
it, and a row per user, each cell padded by one space and left-aligned in a column as
wide as its widest cell. Widths count wide East Asian characters twice and combining marks
not at all.
-/

set_option autoImplicit false

namespace TenderClient.Cli

/-- The columns a character takes on a terminal. -/
def charWidth (c : Char) : Nat :=
  let n := c.toNat
  if (0x300 ≤ n && n ≤ 0x36F) || (0x200B ≤ n && n ≤ 0x200F) then 0
  else if (0x1100 ≤ n && n ≤ 0x115F) || (0x2E80 ≤ n && n ≤ 0xA4CF) ||
      (0xAC00 ≤ n && n ≤ 0xD7A3) || (0xF900 ≤ n && n ≤ 0xFAFF) ||
      (0xFE30 ≤ n && n ≤ 0xFE4F) || (0xFF00 ≤ n && n ≤ 0xFF60) ||
      (0xFFE0 ≤ n && n ≤ 0xFFE6) || (0x1F300 ≤ n && n ≤ 0x1F64F) ||
      (0x20000 ≤ n && n ≤ 0x3FFFD) then 2
  else 1

/-- The columns a text takes. -/
def textWidth (s : String) : Nat := s.toList.foldl (fun w c => w + charWidth c) 0

/-- A text followed by spaces up to a width. -/
def padTo (width : Nat) (s : String) : String :=
  s ++ String.ofList (List.replicate (width - textWidth s) ' ')

/-- A table of rows of cells, the first row the header. -/
def renderTable (rows : List (List String)) : String :=
  let columns := (rows.headD []).length
  let widths := (List.range columns).map fun i =>
    rows.foldl (fun w r => max w (textWidth (r.getD i ""))) 0
  let rule (left mid right : String) :=
    left ++ mid.intercalate (widths.map fun w => String.ofList (List.replicate (w + 2) '─')) ++ right
  let line (r : List String) :=
    "│" ++ "│".intercalate ((List.range columns).map fun i =>
      " " ++ padTo (widths.getD i 0) (r.getD i "") ++ " ") ++ "│"
  let body := match rows with
    | [] => []
    | header :: data => [line header, rule "├" "┼" "┤"] ++ data.map line
  "\n".intercalate ([rule "╭" "┬" "╮"] ++ body ++ [rule "╰" "┴" "╯"])

/-- The table of a follower listing. -/
def userTable (users : List UserRecord) : String :=
  renderTable (["id", "user", "email", "following"] ::
    users.map fun u => [u.id.render, u.username, u.displayEmail, if u.isFollower then "✓" else ""])

end TenderClient.Cli
