import Dialogue.Expression.Literal
import Dialogue.Text.Blank

/-!
# Parameters of handlers

A tag that begins with `@` names a handler, and its parameters are a name with arguments between
round brackets, or arguments alone. The arguments have to be a literal.

* `arguments`: the arguments that parameters give;
* `refusal?`: why parameters are refused.
-/

namespace Dialogue.Handler

open Text

/-- Whether the character may stand in the name of a handler. -/
def isHandlerChar (c : Char) : Bool := isAlphanumeric c || c = '_' || c = '.'

/-- The arguments that parameters give. Brackets to the end after a name, or a name alone, stand for
themselves; all else is read as it is. -/
def arguments (parameters : Text) : Text :=
  let rest := parameters.dropWhile isHandlerChar
  match rest with
  | [] => ['(', ')']
  | '(' :: inner =>
    if inner.getLast? = some ')' && !inner.contains '\n' then rest else parameters
  | _ => parameters

/-- Why parameters are refused, if they are. -/
def refusal? (parameters : Text) : Option Text :=
  let read := arguments (trim parameters)
  match Expression.check read with
  | .ok () => none
  | .error refusal =>
    let place := if refusal.isFault then quoted read ++ ofString " in " else []
    some (ofString "error parsing " ++ place ++ quoted parameters ++ ofString "; " ++
      refusal.message)

end Dialogue.Handler
