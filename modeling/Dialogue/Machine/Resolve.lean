import Dialogue.Machine.State
import Dialogue.Script.Value

/-!
# Resolving parameters

A parameter is resolved against the variables at the moment its statement is carried out.

* `display` (`_display`): the text of a variable, empty if it is not set;
* `resolve` (`OysterVM.resolve`): the text of a parameter. A reference reads its variable and an
  interpolated string fills its placeholders; numbers and truth values stand for themselves as
  written;
* `argument` (`_argument`): the text of a positional parameter, empty if it is missing.

A number with too many digits is refused, be it one that is read in a parameter or the value of a
variable that is shown.
-/

namespace Dialogue.Machine

open Text Script

/-- The text of a value. -/
def displayValue : Scalar → Except TooManyDigits Text
  | .int i => limitedDecimal i
  | .bool b => .ok (ofString (if b then "true" else "false"))
  | .text t => .ok t

/-- The text of a variable. -/
def display (vars : Table Variable) (name : Text) : Except TooManyDigits Text :=
  match vars.get? name with
  | none => .ok []
  | some v => displayValue v.value

/-- The text of a parameter. -/
def resolve (vars : Table Variable) (p : Param) : Except TooManyDigits Text := do
  match ← Value.ofToken p.raw with
  | .reference name => display vars name
  | .text t true => interpolate (display vars) t
  | .text t false => return t
  | .int _ | .bool _ => return p.value

/-- The text of a parameter that may be missing. -/
def resolve? (vars : Table Variable) : Option Param → Except TooManyDigits Text
  | none => .ok []
  | some p => resolve vars p

/-- The text of the positional parameter at a place. -/
def argument (vars : Table Variable) (s : Statement) (i : Nat) : Except TooManyDigits Text :=
  resolve? vars s.positional[i]?

/-- The texts of parameters, in order. -/
def resolveAll (vars : Table Variable) : List Param → Except TooManyDigits (List Text)
  | [] => .ok []
  | p :: ps => do
    let t ← resolve vars p
    let ts ← resolveAll vars ps
    return t :: ts

end Dialogue.Machine
