import Dialogue.Text.Quoted

/-!
# Texts by their code points

A text that was written in code units may hold half a surrogate pair, which is no character. It is
kept as the list of its code points, and a text of characters alone is one in which all are
characters.

* `Codes.ofText`, `Codes.toText?`: from a text and back;
* `Codes.quoted`: the text as a quoted literal, with the halves written by their code points.

`toText?_ofText` says that no character is lost on the way.
-/

namespace Dialogue

open Text

/-- A text is the list of its code points, in which halves of surrogate pairs may stand alone. -/
abbrev Codes := List Nat

namespace Codes

/-- The code points of a text. -/
def ofText (t : Text) : Codes := t.map Char.toNat

/-- The character of a code point, unless it is half a surrogate pair. -/
def char? (code : Nat) : Option Char := if code.isValidChar then some (Char.ofNat code) else none

/-- The text, if every code point is a character. -/
def toText? (codes : Codes) : Option Text := codes.mapM char?

/-- How a code point stands between quotes. -/
def quotedCode (quote : Char) (code : Nat) : Text :=
  match char? code with
  | some c => quotedChar quote c
  | none => '\\' :: 'u' :: hex 4 code

/-- The text as a quoted literal. -/
def quoted (codes : Codes) : Text :=
  let quote := quoteFor (codes.filterMap char?)
  quote :: codes.flatMap (quotedCode quote) ++ [quote]

theorem char?_toNat (c : Char) : char? c.toNat = some c := by
  have h : c.toNat.isValidChar := c.valid
  simp [char?, h]

theorem toText?_ofText (t : Text) : toText? (ofText t) = some t := by
  induction t with
  | nil => rfl
  | cons c r ih =>
    simp only [toText?, ofText] at ih
    simp [toText?, ofText, char?_toNat, ih]

end Codes

end Dialogue
