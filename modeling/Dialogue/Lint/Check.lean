import Dialogue.Catalog.Basic
import Dialogue.Lint.Facts
import Dialogue.Lint.Problem

/-!
# Checking a script

The second reading checks every line against the catalog and against what the first reading
collected.

* `matchesType` (`_matches_type`): whether a token is a literal of a type;
* `checkValue` (`_check_value`): a token against the parameter it is given for;
* `checkRequired`, `checkExtras` (`_validate_line`): the tokens of a command line;
* `checkLine` (`_validate_line`, `_check_compatibility`): all problems of a line;
* `validate` (`OysterValidator.validate`): the diagnostics of a script. Version numbers that are too
  long to read are the only reason to give none.
-/

namespace Dialogue.Lint

open Text Script

/-- Whether the token is a literal of the type. Tokens are cut out of one line, so that there is no
line feed between the quotes of a string. -/
def matchesType (token : Text) : ParamType → Bool
  | .string => (quotedBody? token).isSome || (interpolatedBody? token).isSome
  | .int => isInteger token
  | .bool => isBoolWord token
  | .other _ => false

/-- The problems of the placeholders of an interpolated string. -/
def checkPlaceholders (facts : Facts) (token : Text) : List Problem :=
  if (ofString "$\"").isPrefixOf token then
    ((placeholders token).filter fun name => !facts.vars.has name).map .unknownPlaceholder
  else []

/-- The problems of a value given for a parameter. -/
def checkValue (facts : Facts) (p : ParamSpec) (place : Place) (token : Text) : List Problem :=
  match referenceName? token with
  | some name =>
    match facts.vars.get? name with
    | none => [.unknownVariable name]
    | some d => if d.type = p.type then [] else [.variableType name d.type d.line p.name p.type]
  | none =>
    if matchesType token p.type then checkPlaceholders facts token else [.wrongType place p.type]

/-- The problems of the required parameters of `command`, given in order. -/
def checkRequired (facts : Facts) (command : Text) : List ParamSpec → List Text → List Problem
  | [], _ => []
  | p :: ps, [] => .missingParam p.name command :: checkRequired facts command ps []
  | p :: ps, t :: ts =>
    checkValue facts p (.positional p.name) t ++ checkRequired facts command ps ts

/-- The problems of the tokens after the required ones, when `trailing` positional parameters are
left. -/
def checkExtras (facts : Facts) (c : Contract) : List ParamSpec → List Text → List Problem
  | _, [] => []
  | trailing, t :: ts =>
    match splitNamed t with
    | none =>
      match trailing with
      | p :: ps => checkValue facts p (.positional p.name) t ++ checkExtras facts c ps ts
      | [] => .unnamedOption :: checkExtras facts c [] ts
    | some (name, value) =>
      match c.optionalParam? name with
      | none => .unknownOption name c.name :: checkExtras facts c trailing ts
      | some p => checkValue facts p (.byName name) value ++ checkExtras facts c trailing ts

/-- The problems of a command in a script of the release that the facts name. -/
def checkVersion (facts : Facts) (c : Contract) : Except TooManyDigits (List Problem) := do
  let target ← versionNumber (facts.version.getD [])
  let since ← versionNumber c.since
  match target, since with
  | some t, some s => return if t < s then [.tooNew c.name c.since (facts.version.getD [])] else []
  | _, _ => return []

/-- The problems of a command in a script for the game that the facts name. -/
def checkGame (catalog : Catalog) (facts : Facts) (c : Contract) : List Problem :=
  match facts.game with
  | none => []
  | some title =>
    if title.isEmpty || c.isUniversal then []
    else
      let game := catalog.resolveGame title
      if c.games.contains game then [] else [.otherGame c.name game c.games]

/-- The problems of the parameters of a command. -/
def checkParams (facts : Facts) (c : Contract) (tokens : List Text) : List Problem :=
  checkRequired facts c.name c.required tokens ++
    checkExtras facts c c.trailing (tokens.drop c.required.length)

/-- The problems of a trimmed line that is neither blank nor a comment. -/
def checkCommand (catalog : Catalog) (facts : Facts) (text : Text) :
    Except TooManyDigits (List Problem) :=
  match matchCommand text with
  | none => .ok [.notACommand]
  | some (command, content) =>
    match catalog.find? command with
    | none => .ok [.unknownCommand command]
    | some c => do
      let version ← checkVersion facts c
      return version ++ checkGame catalog facts c ++ checkParams facts c (splitParams content)

/-- The problems of a line. -/
def checkLine (catalog : Catalog) (marks : List Text) (facts : Facts) (raw : Text) :
    Except TooManyDigits (List Problem) :=
  let text := trim raw
  if isSkippable marks text then .ok [] else checkCommand catalog facts text

/-- The diagnostics of lines that are numbered from `first`. -/
def checkLines (catalog : Catalog) (marks : List Text) (facts : Facts) (first : Nat) :
    List Text → Except TooManyDigits (List Diagnostic)
  | [] => .ok []
  | raw :: rest => do
    let problems ← checkLine catalog marks facts raw
    let later ← checkLines catalog marks facts (first + 1) rest
    return problems.map (·.diagnostic (lineRange first raw)) ++ later

/-- The problem of a conflicting declaration. A conflict is always with a variable that has been
declared. -/
def conflictProblem (facts : Facts) (x : Conflict) : Option Problem :=
  (facts.vars.get? x.name).map fun d =>
    .redeclared x.name x.attempted d.type d.line d.command

/-- The diagnostics of the conflicting declarations. -/
def conflictDiagnostics (facts : Facts) : List Diagnostic :=
  facts.conflicts.filterMap fun x => (conflictProblem facts x).map (·.diagnostic x.range)

/-- The diagnostics of a script. -/
def validate (catalog : Catalog) (marks : List Text) (source : Text) :
    Except TooManyDigits (List Diagnostic) := do
  let facts := collectFacts marks source
  let found ← checkLines catalog marks facts 0 (splitLines source)
  return sortDiagnostics (found ++ conflictDiagnostics facts)

end Dialogue.Lint
