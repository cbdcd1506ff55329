import TenderClient.Text.Blank
/-!
# Tag names

A tag attached to a tender is a name with the blanks around it dropped; a name that is
blank is refused before anything is sent.
-/

set_option autoImplicit false

namespace TenderClient

/-- A tag name: trimmed of blanks and not empty. -/
structure TagName where
  /-- The trimmed name. -/
  text : String
  ne : text ≠ ""
  trimmed : Text.trimBlank text = text

/-- Why a text is no tag name. -/
inductive TagError where
  /-- The name is empty once blanks are dropped. -/
  | empty
deriving DecidableEq, Repr

/-- The sentence that reports the error. -/
def TagError.message : TagError → String
  | .empty => "tag name can not be empty"

namespace TagName

/-- The tag with the given name, blanks around it dropped. -/
def ofString (s : String) : Except TagError TagName :=
  let t := Text.trimBlank s
  if h : t = "" then .error .empty else .ok ⟨t, h, Text.trimBlank_trimBlank s⟩

/-- A tag name is the tag its own text names. -/
theorem ofString_text_self (t : TagName) : ofString t.text = .ok t := by
  obtain ⟨text, ne, trimmed⟩ := t
  unfold ofString
  dsimp only
  split
  · rename_i h
    rw [trimmed] at h
    exact absurd h ne
  · simp only [Except.ok.injEq, mk.injEq]
    exact trimmed

end TagName

end TenderClient
