import Dialogue.Text.Basic

/-!
# Quoted literals of a script

A literal between double quotes may hold any text: inside it a backslash keeps a following double
quote or backslash as it is.

* `enquote`: a text as a quoted literal;
* `quotedBody?`: what stands between the outer quotes of a token;
* `unescape`: the body with its escapes resolved;
* `stripQuotes` (`strip_quotes`): the text of a token, quoted or bare.

`unescape_escape` says that resolving the escapes undoes writing them.
-/

namespace Dialogue.Script

open Text

/-- The text with a backslash before every double quote and backslash. -/
def escape : Text → Text
  | [] => []
  | c :: r => if c = '"' ∨ c = '\\' then '\\' :: c :: escape r else c :: escape r

/-- The text as a quoted literal. -/
def enquote (t : Text) : Text := '"' :: escape t ++ ['"']

/-- The text with each escaped double quote or backslash replaced by the character itself; any
other backslash stays. -/
def unescape : Text → Text
  | [] => []
  | [c] => [c]
  | c :: d :: r =>
    if c = '\\' ∧ (d = '"' ∨ d = '\\') then d :: unescape r else c :: unescape (d :: r)

/-- What stands between the first and the last character when both are double quotes. -/
def quotedBody? : Text → Option Text
  | [] => none
  | c :: r => if c = '"' ∧ r.getLast? = some '"' then some r.dropLast else none

/-- What stands between the quotes of a token that opens with a dollar sign and a double quote and
ends with another double quote. -/
def interpolatedBody? : Text → Option Text
  | [] => none
  | c :: r => if c = '$' then quotedBody? r else none

/-- The text a token stands for: its unescaped body if it is quoted, else the token itself. -/
def stripQuotes (token : Text) : Text :=
  match quotedBody? token with
  | some body => unescape body
  | none => token

theorem unescape_escape_append (t u : Text) : unescape (escape t ++ u) = t ++ unescape u := by
  induction t with
  | nil => rfl
  | cons c r ih =>
    by_cases h : c = '"' ∨ c = '\\'
    · simp [escape, h, unescape, ih]
    · simp only [escape, h, if_false, List.cons_append]
      cases hr : escape r ++ u with
      | nil =>
        rw [hr] at ih
        simp [unescape, ← ih]
      | cons d s =>
        rw [hr] at ih
        have hc : ¬ c = '\\' := fun hc => h (Or.inr hc)
        simp [unescape, hc, ih]

/-- Resolving the escapes undoes writing them. -/
theorem unescape_escape (t : Text) : unescape (escape t) = t := by
  simpa [unescape] using unescape_escape_append t []

theorem stripQuotes_enquote (t : Text) : stripQuotes (enquote t) = t := by
  simp [stripQuotes, enquote, quotedBody?, unescape_escape]

end Dialogue.Script
