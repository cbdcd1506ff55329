/-!
# Blank characters

The characters of the Unicode `White_Space` property, and trimming by them. Identifiers,
tag names, base URLs and cookie pairs lose surrounding blanks of this class before they are
read, so a no-break space or an ideographic space around a value is dropped as an ASCII
space is.

Main statements: `trimBlank_toList`, which describes trimming as two `dropWhile`s, `head?_trimBlank` and
`getLast?_trimBlank` (a trimmed text has no blank at either end) and `trimBlank_trimBlank`
(trimming twice trims once).
-/

set_option autoImplicit false

namespace TenderClient.Text

/-- A character is blank when it has the Unicode `White_Space` property: tab, line feed,
vertical tab, form feed, carriage return, space, next line, no-break space, ogham space
mark, the spaces from en quad to hair space, line and paragraph separators, narrow
no-break space, medium mathematical space and ideographic space. -/
def isBlank (c : Char) : Bool :=
  let n := c.toNat
  (0x09 ≤ n && n ≤ 0x0D) || n == 0x20 || n == 0x85 || n == 0xA0 || n == 0x1680 ||
    (0x2000 ≤ n && n ≤ 0x200A) || n == 0x2028 || n == 0x2029 || n == 0x202F ||
    n == 0x205F || n == 0x3000

/-- Drops blank characters from the front of a list of characters. -/
def dropBlank (cs : List Char) : List Char :=
  cs.dropWhile isBlank

/-- Removes blanks from both ends of a text. -/
def trimBlank (s : String) : String :=
  String.ofList (dropBlank (dropBlank s.toList).reverse).reverse

/-- Removes blanks from the front of a text. -/
def trimBlankStart (s : String) : String :=
  String.ofList (dropBlank s.toList)

/-- Removes blanks from the end of a text. -/
def trimBlankEnd (s : String) : String :=
  String.ofList (dropBlank s.toList.reverse).reverse

theorem trimBlank_toList (s : String) :
    (trimBlank s).toList = (dropBlank (dropBlank s.toList).reverse).reverse := by
  simp [trimBlank]

/-- Dropping blanks leaves a list that starts with no blank. -/
theorem head?_dropBlank (cs : List Char) : ∀ c ∈ (dropBlank cs).head?, isBlank c = false := by
  intro c hc
  have := List.head?_dropWhile_not isBlank cs
  rw [Option.mem_def] at hc
  unfold dropBlank at hc
  rw [hc] at this
  exact this

/-- A list that starts with no blank has none to drop. -/
theorem dropBlank_of_head {cs : List Char} (h : ∀ c ∈ cs.head?, isBlank c = false) :
    dropBlank cs = cs := by
  cases cs with
  | nil => rfl
  | cons c cs => simp [dropBlank, h c rfl]

/-- Dropping blanks from the front keeps the last character. -/
theorem getLast?_dropBlank {cs : List Char} {c : Char} (h : c ∈ (dropBlank cs).getLast?) :
    c ∈ cs.getLast? := by
  obtain ⟨ys, hys⟩ := List.getLast?_eq_some_iff.mp h
  obtain ⟨zs, hzs⟩ := List.dropWhile_suffix isBlank (l := cs)
  unfold dropBlank at hys
  rw [← hzs, hys, ← List.append_assoc]
  exact List.getLast?_eq_some_iff.mpr ⟨_, rfl⟩

/-- The first character of a trimmed text is no blank. -/
theorem head?_trimBlank (s : String) : ∀ ch ∈ (trimBlank s).toList.head?, isBlank ch = false := by
  intro ch hch
  -- it is the last of the list trimmed from the back, which ends as the text trimmed in front
  rw [trimBlank_toList, List.head?_reverse] at hch
  have hlast := getLast?_dropBlank hch
  rw [List.getLast?_reverse] at hlast
  exact head?_dropBlank _ ch hlast

/-- The last character of a trimmed text is no blank. -/
theorem getLast?_trimBlank (s : String) :
    ∀ ch ∈ (trimBlank s).toList.getLast?, isBlank ch = false := by
  intro ch hch
  rw [trimBlank_toList, List.getLast?_reverse] at hch
  exact head?_dropBlank _ ch hch

/-- A trimmed text has no blanks left to trim. -/
theorem trimBlank_trimBlank (s : String) : trimBlank (trimBlank s) = trimBlank s := by
  apply String.toList_inj.mp
  -- the trimmed text neither starts nor ends with a blank, so neither end has one to drop
  have hback : ∀ ch ∈ (trimBlank s).toList.reverse.head?, isBlank ch = false := by
    rw [List.head?_reverse]
    exact getLast?_trimBlank s
  rw [trimBlank_toList (trimBlank s), dropBlank_of_head (head?_trimBlank s), dropBlank_of_head hback,
    List.reverse_reverse]

example : isBlank ' ' = true ∧ isBlank '\u3000' = true ∧ isBlank '\u200B' = false := by
  decide

end TenderClient.Text
