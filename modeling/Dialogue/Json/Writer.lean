import Dialogue.Decimal.Shortest
import Dialogue.Json.Basic
import Dialogue.Text.Quoted

/-!
# Writing JSON

Documents are written on one line in ASCII: a blank after each comma and colon, and every character
outside printable ASCII as `\uXXXX`, in two halves above U+FFFF.

* `escapeChar`, `quote`: a text as a JSON string;
* `Json.write`: a value.
-/

namespace Dialogue

open Text

namespace Json

/-- One code unit as an escape. -/
def unitEscape (n : Nat) : Text := '\\' :: 'u' :: hex 4 n

/-- How a character stands in a JSON string. -/
def escapeChar (c : Char) : Text :=
  if c = '"' ∨ c = '\\' then ['\\', c]
  else if c = '\n' then ['\\', 'n']
  else if c = '\r' then ['\\', 'r']
  else if c = '\t' then ['\\', 't']
  else if c.toNat = 0x08 then ['\\', 'b']
  else if c.toNat = 0x0c then ['\\', 'f']
  else if 0x20 ≤ c.toNat ∧ c.toNat < 0x7f then [c]
  else if c.toNat < 0x10000 then unitEscape c.toNat
  else unitEscape (0xd800 + (c.toNat - 0x10000) / 0x400) ++
    unitEscape (0xdc00 + (c.toNat - 0x10000) % 0x400)

/-- A text as a JSON string. -/
def quote (t : Text) : Text := '"' :: t.flatMap escapeChar ++ ['"']

/-- How a code point stands in a JSON string. -/
def escapeCode (code : Nat) : Text :=
  match Codes.char? code with
  | some c => escapeChar c
  | none => unitEscape code

/-- A text given by its code points as a JSON string. -/
def quoteCodes (codes : Codes) : Text := '"' :: codes.flatMap escapeCode ++ ['"']

/-- A number that is not finite has a name of its own. -/
def writeReal (f : Float) : Text :=
  if f.isNaN then ofString "NaN"
  else if f.isInf then ofString (if f < 0 then "-Infinity" else "Infinity")
  else Decimal.showFloat f

mutual

/-- A value as JSON text. -/
def write : Json → Text
  | .null => ofString "null"
  | .bool b => ofString (if b then "true" else "false")
  | .int i => decimal i
  | .real f => writeReal f
  | .text t => quote t
  | .brokenText codes => quoteCodes codes
  | .list items => '[' :: joinWith (ofString ", ") (writeItems items) ++ [']']
  | .object members => '\x7b' :: joinWith (ofString ", ") (writeMembers members) ++ ['\x7d']

/-- The items of a list as JSON texts. -/
def writeItems : List Json → List Text
  | [] => []
  | v :: vs => write v :: writeItems vs

/-- The members of an object as JSON texts. -/
def writeMembers : List (Codes × Json) → List Text
  | [] => []
  | m :: ms => (quoteCodes m.1 ++ ofString ": " ++ write m.2) :: writeMembers ms

end

end Json

end Dialogue
