import Dialogue.Decimal.Shortest
import Dialogue.Json.Basic
import Dialogue.Text.Quoted

/-!
# Values shown in messages and summaries

A value is shown on one line, texts as quoted literals, with `None`, `True` and `False` for the
values without digits or quotes.

* `Json.literal`: how a value is shown;
* `Json.typeName`: the name of its type;
* `shownFields`: named values between braces;
* `shownTuple`: literals between parentheses.
-/

namespace Dialogue

open Text

/-- Values between braces, after the literals of their names. -/
def shownMembers (members : List (Text × Text)) : Text :=
  '\x7b' :: joinWith (ofString ", ") (members.map fun m => m.1 ++ ofString ": " ++ m.2) ++ ['\x7d']

/-- Named values between braces. -/
def shownFields (fields : List (Text × Text)) : Text :=
  shownMembers (fields.map fun f => (quoted f.1, f.2))

/-- Literals between parentheses; a comma follows one that stands alone. -/
def shownTuple (items : List Text) : Text :=
  '(' :: joinWith (ofString ", ") items ++
    (if items.length = 1 then [',', ')'] else [')'])

/-- A value that may be missing. -/
def shownOption {α : Type} (f : α → Text) : Option α → Text
  | none => ofString "None"
  | some a => f a

namespace Json

mutual

/-- How a value is shown. -/
def literal : Json → Text
  | .null => ofString "None"
  | .bool b => ofString (if b then "True" else "False")
  | .int i => decimal i
  | .real f => Decimal.showFloat f
  | .text t => quoted t
  | .brokenText codes => codes.quoted
  | .list items => '[' :: joinWith (ofString ", ") (itemLiterals items) ++ [']']
  | .object members => shownMembers (memberLiterals members)

/-- How the items of a list are shown. -/
def itemLiterals : List Json → List Text
  | [] => []
  | v :: vs => literal v :: itemLiterals vs

/-- How the members of an object are shown. -/
def memberLiterals : List (Codes × Json) → List (Text × Text)
  | [] => []
  | m :: ms => (m.1.quoted, literal m.2) :: memberLiterals ms

end

/-- The name of a value's type. -/
def typeName : Json → Text
  | .null => ofString "NoneType"
  | .bool _ => ofString "bool"
  | .int _ => ofString "int"
  | .real _ => ofString "float"
  | .text _ | .brokenText _ => ofString "str"
  | .list _ => ofString "list"
  | .object _ => ofString "dict"

end Json

end Dialogue
