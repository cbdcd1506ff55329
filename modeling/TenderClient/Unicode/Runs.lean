/-!
# Tables of code point runs

A Unicode property is kept as runs: the code points from the start of one run up to the
start of the next share a value. A table is written compactly as text, one run per word,
each start as the hexadecimal distance from the start before it:

* a property with values writes `distance/value`, the value in hexadecimal too;
* a yes-or-no property writes only the distances, the runs alternating between having the
  property and not, starting with one that has it.

Looking a code point up finds the last run that starts at or below it by halving the range
of runs.
-/

set_option autoImplicit false

namespace TenderClient.Unicode

/-- The value of a hexadecimal digit, in either case. -/
def hexDigit? (c : Char) : Option Nat :=
  if '0' ≤ c && c ≤ '9' then some (c.toNat - 48)
  else if 'a' ≤ c && c ≤ 'f' then some (c.toNat - 87)
  else if 'A' ≤ c && c ≤ 'F' then some (c.toNat - 55)
  else none

/-- Reads hexadecimal digits; a character that is no digit counts as zero. -/
def readHex (cs : List Char) : Nat :=
  cs.foldl (fun acc c => acc * 16 + (hexDigit? c).getD 0) 0

/-- The words of a table text. -/
def words (text : String) : List (List Char) :=
  (text.splitOn " ").filterMap fun w => if w.isEmpty then none else some w.toList

/-- A table of runs: the starts in ascending order, the first one zero, and the value of
each run. -/
structure RunTable where
  starts : Array Nat
  values : Array Nat

/-- Adds the starts of a list of distances to the starts so far. -/
def absoluteStarts (distances : List Nat) : List Nat :=
  (distances.foldl (fun (acc : List Nat × Nat) d => ((acc.2 + d) :: acc.1, acc.2 + d))
    ([], 0)).1.reverse

/-- The last index in `[lo, hi)` whose start is at or below `n`, given that the start at
`lo` is. -/
def lastAtOrBelow (starts : Array Nat) (n lo hi : Nat) : Nat :=
  if lo + 1 < hi then
    let mid := (lo + hi) / 2
    if starts.getD mid 0 ≤ n then lastAtOrBelow starts n mid hi
    else lastAtOrBelow starts n lo mid
  else lo
termination_by hi - lo

namespace RunTable

/-- Reads a table of a property with values. -/
def ofText (text : String) : RunTable :=
  let runs := (words text).map fun w =>
    (readHex (w.takeWhile (· != '/')), readHex ((w.dropWhile (· != '/')).drop 1))
  { starts := (absoluteStarts (runs.map (·.1))).toArray, values := (runs.map (·.2)).toArray }

/-- Reads a table of a yes-or-no property: its value is one where the property holds. -/
def ofSetText (text : String) : RunTable :=
  let starts := absoluteStarts ((words text).map readHex)
  let values := (List.range starts.length).map fun i => (i + 1) % 2
  { starts := (0 :: starts).toArray, values := (0 :: values).toArray }

/-- The value of a code point. -/
def get (t : RunTable) (n : Nat) : Nat :=
  t.values.getD (lastAtOrBelow t.starts n 0 t.starts.size) 0

/-- Whether a code point has a yes-or-no property. -/
def contains (t : RunTable) (n : Nat) : Bool := t.get n == 1

end RunTable

end TenderClient.Unicode
