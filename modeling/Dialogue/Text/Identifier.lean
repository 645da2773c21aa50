import Dialogue.Text.Basic

/-!
# Identifiers

Commands, variables and placeholders (`COMMAND_RE`, `VAR_REF_RE`, `PLACEHOLDER_RE`) are named by ASCII
identifiers: a letter or an underscore, then letters, digits and underscores.
-/

namespace Dialogue.Text

/-- A character that may open an identifier. -/
def isNameStart (c : Char) : Bool := c.isAlpha || c = '_'

/-- A character that may follow the first one of an identifier. -/
def isNameChar (c : Char) : Bool := c.isAlphanum || c = '_'

/-- Whether the whole text is an identifier. -/
def isIdentifier : Text → Bool
  | [] => false
  | c :: r => isNameStart c && r.all isNameChar

/-- The longest identifier at the start of the text, empty when there is none. -/
def leadingName : Text → Text
  | [] => []
  | c :: r => if isNameStart c then c :: r.takeWhile isNameChar else []

theorem isNameChar_of_isNameStart {c : Char} (h : isNameStart c = true) : isNameChar c = true := by
  simp only [isNameStart, isNameChar, Char.isAlphanum, Bool.or_eq_true] at *
  exact h.imp Or.inl id

end Dialogue.Text
