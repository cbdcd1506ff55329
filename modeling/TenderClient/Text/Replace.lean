/-!
# Finding and replacing a pattern

Occurrences of a nonempty pattern in a text, found from the left without overlap: the test
whether a text holds a pattern, and the replacement of every occurrence.
-/

set_option autoImplicit false

namespace TenderClient.Text

/-- Replaces every occurrence of a nonempty pattern, from the left, without overlap. -/
def replaceAll (pat rep : List Char) (l : List Char) : List Char :=
  match l with
  | [] => []
  | c :: rest =>
    if _h : pat ≠ [] ∧ pat.isPrefixOf (c :: rest) = true then
      rep ++ replaceAll pat rep ((c :: rest).drop pat.length)
    else c :: replaceAll pat rep rest
termination_by l.length
decreasing_by
  all_goals simp only [List.length_drop, List.length_cons]
  · have : pat.length ≠ 0 := by simpa using _h.1
    omega
  · omega

/-- Whether a list of characters holds a pattern somewhere. -/
def holdsIn (pat : List Char) : List Char → Bool
  | [] => pat.isEmpty
  | c :: rest => pat.isPrefixOf (c :: rest) || holdsIn pat rest

/-- Whether a text holds a pattern. -/
def holds (s pat : String) : Bool := holdsIn pat.toList s.toList

/-- Replaces every occurrence of a pattern in a text. -/
def replace (s pat rep : String) : String :=
  String.ofList (replaceAll pat.toList rep.toList s.toList)

/-- Removes every trailing occurrence of a character. -/
def dropTrailing (c : Char) (s : String) : String :=
  String.ofList (s.toList.reverse.dropWhile (· == c)).reverse

end TenderClient.Text
