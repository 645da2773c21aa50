import Dialogue.Script.Quoting
import Dialogue.Script.Scan

/-!
# Parameters

A parameter is a positional value or a named one. It keeps the text it was written as and the text
that is left when its quotes are taken off.

* `Param.ofToken` (`parse_param`): the parameter a token stands for;
* `Param.toSource` (`Param.to_source`): the token, with a named parameter written without blanks
  around `=`.
-/

namespace Dialogue

open Text Script

/-- A parameter of a statement. -/
structure Param where
  /-- The value without its quotes. -/
  value : Text
  /-- The value as written. -/
  raw : Text
  /-- The name; a positional parameter has none. -/
  name : Option Text := none
  deriving DecidableEq, Repr

namespace Param

/-- The parameter a trimmed token stands for. -/
def ofToken (token : Text) : Param :=
  match splitNamed token with
  | none => { value := stripQuotes token, raw := token }
  | some (name, raw) => { value := stripQuotes raw, raw := raw, name := some name }

/-- The parameter written as a token. -/
def toSource (p : Param) : Text :=
  match p.name with
  | none => p.raw
  | some name => name ++ '=' :: p.raw

/-- Whether the parameter is a positional one. -/
def isPositional (p : Param) : Bool := p.name.isNone

end Param

end Dialogue
