import Dialogue.Lint.Diagnostic
import Dialogue.Script.Value
import Dialogue.Script.Verb

/-!
# What a script declares

The linter reads a script twice. The first reading collects the variables that its lines declare
and the game and release that it is written for.

* `commandLine?` (`is_skippable`, `match_command`): command and bracket content of a line that is no
  comment;
* `Facts` (`ScriptFacts`): what the first reading learns. A variable has the type of its first
  declaration and the line of its last one of that type; a declaration of another type is a
  conflict;
* `collectFacts` (`collect_facts`): the first reading.
-/

namespace Dialogue

open Text Script

namespace Lint

/-- Command and bracket content of a line, if it is a command line. -/
def commandLine? (marks : List Text) (raw : Text) : Option (Text × Text) :=
  let text := trim raw
  if isSkippable marks text then none else matchCommand text

/-- The identifier that a token quotes. -/
def quotedName? (token : Text) : Option Text :=
  (quotedBody? token).filter isIdentifier

/-- The trimmed span of a line. -/
def lineRange (index : Nat) (raw : Text) : TextRange :=
  let start := raw.length - (trimLeft raw).length
  { line := index, start := start, stop := start + (trim raw).length }

/-- How a script declares a variable. -/
structure Declaration where
  type : ParamType
  /-- The declaring command as first typed. -/
  command : Text
  /-- The last line that declares the variable with the same type. -/
  line : Nat
  deriving DecidableEq, Repr

/-- A declaration with another type than the first. -/
structure Conflict where
  name : Text
  attempted : ParamType
  range : TextRange
  deriving DecidableEq, Repr

/-- What the first reading learns. -/
structure Facts where
  vars : Table Declaration := []
  conflicts : List Conflict := []
  game : Option Text := none
  version : Option Text := none
  deriving DecidableEq, Repr

namespace Facts

/-- Adds what a token of a header says of game and release. -/
def addHeader (f : Facts) (token : Text) : Facts :=
  match splitNamed token with
  | none => f
  | some (name, value) =>
    if name = ofString "game" then { f with game := some (stripQuotes value) }
    else if name = ofString "version" then { f with version := some (stripQuotes value) }
    else f

/-- Adds a declaration made on line `index`. -/
def declare (f : Facts) (type : ParamType) (command name : Text) (index : Nat) (raw : Text) :
    Facts :=
  match f.vars.get? name with
  | none => { f with vars := f.vars.put name { type, command, line := index } }
  | some d =>
    if d.type = type then { f with vars := f.vars.put name { d with line := index } }
    else { f with
      conflicts := f.conflicts ++ [{ name, attempted := type, range := lineRange index raw }] }

/-- Adds what a line says. -/
def addLine (marks : List Text) (f : Facts) (index : Nat) (raw : Text) : Facts :=
  match commandLine? marks raw with
  | none => f
  | some (command, content) =>
    let tokens := splitParams content
    match Verb.ofKey? (lower command) with
    | none => f
    | some .header => tokens.foldl addHeader f
    | some v =>
      match v.declares, tokens.head?.bind quotedName? with
      | some type, some name => f.declare type command name index raw
      | _, _ => f

/-- Adds what lines numbered from `first` say. -/
def addLines (marks : List Text) (f : Facts) (first : Nat) : List Text → Facts
  | [] => f
  | raw :: rest => addLines marks (f.addLine marks first raw) (first + 1) rest

end Facts

/-- What a script declares. -/
def collectFacts (marks : List Text) (source : Text) : Facts :=
  Facts.addLines marks {} 0 (splitLines source)

end Lint

end Dialogue
