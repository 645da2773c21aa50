import Dialogue.Catalog.Contract
import Dialogue.Lint.Diagnostic

/-!
# What can be wrong with a script

* `Problem` (`DiagnosticSpec`): the causes of the linter's remarks;
* `Problem.code`, `Problem.severity`, `Problem.category`, `Problem.message`, `Problem.hint`: how a
  cause is reported;
* `Problem.diagnostic` (`Diagnostic.from_spec`): the diagnostic of a cause on a stretch of a line.
-/

namespace Dialogue.Lint

open Text

/-- How a parameter is named in a remark on its value. -/
inductive Place where
  /-- A parameter given by position. -/
  | positional (name : Text)
  /-- A parameter given by name. -/
  | byName (name : Text)
  deriving DecidableEq, Repr

/-- The words for a parameter. -/
def Place.label : Place → Text
  | .positional name => ofString "Parameter " ++ name
  | .byName name => ofString "Optional parameter '" ++ name ++ ofString "'"

/-- The cause of a remark. -/
inductive Problem where
  /-- A line that is neither blank, nor a comment, nor a command. -/
  | notACommand
  | unknownCommand (command : Text)
  | missingParam (param command : Text)
  | wrongType (place : Place) (expected : ParamType)
  /-- An unnamed value after the last positional parameter. -/
  | unnamedOption
  | unknownOption (name command : Text)
  | unknownVariable (name : Text)
  | variableType (name : Text) (declared : ParamType) (line : Nat) (param : Text)
      (expected : ParamType)
  /-- A declaration as `attempted` of a variable that was declared otherwise by `command`. -/
  | redeclared (name : Text) (attempted declared : ParamType) (line : Nat) (command : Text)
  | unknownPlaceholder (name : Text)
  /-- A command of a later release than the script's. -/
  | tooNew (command since target : Text)
  /-- A command that the script's game does not have. -/
  | otherGame (command game : Text) (games : List Text)
  deriving DecidableEq, Repr

namespace Problem

/-- The code of the cause. -/
def code : Problem → Text
  | notACommand => ofString "SYNTAX_INVALID_COMMAND"
  | unknownCommand _ => ofString "COMMAND_UNKNOWN"
  | missingParam .. => ofString "PARAM_MISSING_REQUIRED"
  | wrongType .. => ofString "PARAM_INVALID_TYPE"
  | unnamedOption => ofString "PARAM_EXPECTED_NAMED"
  | unknownOption .. => ofString "PARAM_UNKNOWN_OPTIONAL"
  | unknownVariable _ => ofString "VARIABLE_UNKNOWN"
  | variableType .. => ofString "VARIABLE_TYPE_MISMATCH"
  | redeclared .. => ofString "VARIABLE_REDECLARED"
  | unknownPlaceholder _ => ofString "VARIABLE_UNKNOWN_PLACEHOLDER"
  | tooNew .. => ofString "COMPAT_VERSION"
  | otherGame .. => ofString "COMPAT_GAME"

/-- Placeholders and compatibility are only warned of. -/
def severity : Problem → Severity
  | unknownPlaceholder _ | tooNew .. | otherGame .. => .warning
  | _ => .error

/-- The category of the cause. -/
def category : Problem → Text
  | notACommand => ofString "syntax"
  | unknownCommand _ => ofString "command"
  | missingParam .. | wrongType .. | unnamedOption | unknownOption .. => ofString "parameter"
  | unknownVariable _ | variableType .. | redeclared .. | unknownPlaceholder _ =>
    ofString "variable"
  | tooNew .. | otherGame .. => ofString "compatibility"

/-- The wording of the cause; lines are counted from one. -/
def message : Problem → Text
  | notACommand => ofString "Invalid Oyster command syntax. Expected: COMMAND [params]"
  | unknownCommand command => ofString "Unknown Oyster command: " ++ command
  | missingParam param command =>
    ofString "Missing required parameter " ++ param ++ ofString " for " ++ command
  | wrongType place expected => place.label ++ ofString " should be " ++ expected.name
  | unnamedOption => ofString "Optional parameters must be in the form name=value"
  | unknownOption name command =>
    ofString "Unknown optional parameter '" ++ name ++ ofString "' for " ++ command
  | unknownVariable name => ofString "Unknown variable '$" ++ name ++ ofString "'"
  | variableType name declared line param expected =>
    ofString "Variable '" ++ name ++ ofString "' is " ++ declared.name ++
      ofString " (declared at line " ++ decimal (line + 1 : Nat) ++ ofString ") but " ++ param ++
      ofString " expects " ++ expected.name
  | redeclared name attempted declared line _ =>
    ofString "Variable '" ++ name ++ ofString "' cannot be redeclared as " ++ attempted.name ++
      ofString "; previously declared as " ++ declared.name ++ ofString " at line " ++
      decimal (line + 1 : Nat)
  | unknownPlaceholder name =>
    ofString "Unknown variable '\x7b" ++ name ++ ofString "\x7d' in interpolated string"
  | tooNew command since target =>
    command ++ ofString " was introduced in Oyster " ++ since ++
      ofString " but this script targets " ++ target
  | otherGame command game games =>
    command ++ ofString " is not supported by " ++ game ++ ofString ". Supported games: " ++
      joinWith (ofString ", ") games

/-- What to do about the cause. -/
def hint : Problem → Option Text
  | redeclared name _ _ _ command =>
    some (ofString "Use " ++ command ++ ofString " to update '" ++ name ++
      ofString "' or pick a new name.")
  | _ => none

/-- The diagnostic of the cause on a stretch of a line. -/
def diagnostic (p : Problem) (range : TextRange) : Diagnostic :=
  { code := p.code, message := p.message, range, severity := p.severity, hint := p.hint,
    category := some p.category }

end Problem

end Dialogue.Lint
