/-!
# YAML marks and syntax errors

A mark is a place in a YAML text: the index of a character, and its line and column, all
counted from zero. A syntax error names the problem and where it was found and, when it
arose while reading a larger construct, that construct and where it began.

An error is reported with places counted from one, and a place that is the very start of
the text is left out: a problem at the start says nothing of where; a reader problem
without a mark gives the byte position of the character refused; a context is placed only
when it begins somewhere else than the problem.
-/

set_option autoImplicit false

namespace TenderClient.Yaml

/-- A place in a YAML text, counted from zero. -/
structure Mark where
  index : Nat := 0
  line : Nat := 0
  column : Nat := 0
deriving DecidableEq, Repr

/-- Whether a mark is at the first line and column. -/
def Mark.atStart (m : Mark) : Bool := m.line == 0 && m.column == 0

/-- A mark as `line L column C`, counted from one. -/
def Mark.render (m : Mark) : String :=
  "line " ++ Nat.repr (m.line + 1) ++ " column " ++ Nat.repr (m.column + 1)

/-- An error of YAML syntax. -/
structure SyntaxError where
  problem : String
  problemMark : Mark := {}
  /-- The byte offset of a character the reader refused, or zero. -/
  offset : Nat := 0
  context : Option String := none
  contextMark : Mark := {}
deriving DecidableEq, Repr

/-- The sentence that reports a syntax error. -/
def SyntaxError.message (e : SyntaxError) : String :=
  let head :=
    if !e.problemMark.atStart then e.problem ++ " at " ++ e.problemMark.render
    else if e.offset ≠ 0 then e.problem ++ " at position " ++ Nat.repr e.offset
    else e.problem
  match e.context with
  | none => head
  | some c =>
    let placeContext := !e.contextMark.atStart &&
      (e.contextMark.line != e.problemMark.line || e.contextMark.column != e.problemMark.column)
    head ++ ", " ++ c ++ (if placeContext then " at " ++ e.contextMark.render else "")

/-- How a scalar was written. -/
inductive ScalarStyle where
  | plain
  | singleQuoted
  | doubleQuoted
  | literal
  | folded
deriving DecidableEq, Repr

end TenderClient.Yaml
