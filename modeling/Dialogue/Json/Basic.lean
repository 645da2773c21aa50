import Dialogue.Text.Codes

/-!
# JSON values

The value of a JSON document. Whole numbers are kept apart from numbers with a fraction or an
exponent, and the members of an object keep the order of their first writing. A text may hold half a
surrogate pair, which is no character; such a text is kept apart from the others. The name of a
member is given by its code points.
-/

namespace Dialogue

/-- A JSON value. -/
inductive Json where
  | null
  | bool (b : Bool)
  | int (i : Int)
  | real (f : Float)
  | text (t : Text)
  /-- A text in which halves of surrogate pairs stand alone, as code points. -/
  | brokenText (codes : Codes)
  | list (items : List Json)
  | object (members : List (Codes × Json))
  deriving Inhabited

namespace Json

/-- The value of a text given by its code points. -/
def ofCodes (codes : Codes) : Json :=
  match codes.toText? with
  | some t => .text t
  | none => .brokenText codes

/-- The text that the value is. -/
def codes? : Json → Option Codes
  | .text t => some (Codes.ofText t)
  | .brokenText codes => some codes
  | _ => none

/-- The object with the named members. -/
def ofFields (fields : List (Text × Json)) : Json :=
  .object (fields.map fun f => (Codes.ofText f.1, f.2))

/-- The member of an object; `none` for other values. -/
def member? : Json → Text → Option Json
  | .object members, key => members.lookup (Codes.ofText key)
  | _, _ => none

/-- Whether the value is an object. -/
def isObject : Json → Bool
  | .object _ => true
  | _ => false

end Json

end Dialogue
