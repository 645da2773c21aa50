import Dialogue.Script.Param
import Dialogue.Text.Case
import Dialogue.Text.Identifier
import Dialogue.Text.Lines

/-!
# Statements and scripts

A statement is one command line: an identifier, blanks, and parameters between square brackets.
Blank lines and comments are skipped, and a line of any other form is passed over in silence; it is
the linter that reports it.

* `matchCommand` (`match_command`, `COMMAND_RE`): command and bracket content of a line. The content
  holds no line feed, and one line feed may follow the closing bracket;
* `Statement.ofLine` (`parse_line`): the statement of one line;
* `parse`: the statements of a script, each with the number of its line;
* `Statement.toSource` (`Statement.to_source`): the statement written as one line.
-/

namespace Dialogue

open Text Script

/-- Name and parameters of a command line. -/
structure Statement where
  /-- The command as typed. -/
  command : Text
  params : List Param := []
  /-- The number of the line, from zero. -/
  line : Int := 0
  /-- The whole line as written. -/
  raw : Text := []
  deriving DecidableEq, Repr

namespace Script

/-- The texts that open a comment unless others are chosen. -/
def defaultMarks : List Text := [ofString "#", ofString "//"]

/-- Whether a trimmed line is blank or a comment. -/
def isSkippable (marks : List Text) (line : Text) : Bool :=
  line.isEmpty || marks.any (·.isPrefixOf line)

/-- The text without one line feed at its end. -/
def dropFeed (t : Text) : Text := if t.getLast? = some '\n' then t.dropLast else t

/-- The content of a bracket that opens before the text and closes at its end. -/
def bracketContent? (t : Text) : Option Text :=
  let inner := dropFeed t
  if inner.getLast? = some ']' ∧ '\n' ∉ inner.dropLast then some inner.dropLast else none

/-- Command and bracket content of a command line. -/
def matchCommand (t : Text) : Option (Text × Text) :=
  let command := leadingName t
  if command.isEmpty then none
  else match trimLeft (t.drop command.length) with
    | '[' :: r => (bracketContent? r).map fun content => (command, content)
    | _ => none

end Script

namespace Statement

/-- The command in lower case, by which it is looked up. -/
def key (s : Statement) : Text := lower s.command

/-- The parameters without a name. -/
def positional (s : Statement) : List Param := s.params.filter (·.isPositional)

/-- The first parameter with the name; `none` asks for the first positional one. -/
def named (s : Statement) (name : Option Text) : Option Param :=
  s.params.find? fun p => p.name = name

/-- The statement as one line. -/
def toSource (s : Statement) : Text :=
  s.command ++ ofString " [" ++ joinWith (ofString ", ") (s.params.map Param.toSource) ++ [']']

/-- The statement of a line, if the line is a command line. -/
def ofLine (marks : List Text) (line : Int) (raw : Text) : Option Statement :=
  let text := trim raw
  if isSkippable marks text then none
  else (matchCommand text).map fun (command, content) =>
    { command, params := (splitParams content).map Param.ofToken, line, raw }

end Statement

namespace Script

/-- The statements of lines that are numbered from `first`. -/
def parseLines (marks : List Text) (first : Nat) : List Text → List Statement
  | [] => []
  | raw :: rest => (Statement.ofLine marks first raw).toList ++ parseLines marks (first + 1) rest

/-- The statements of a script, in order. -/
def parse (marks : List Text) (source : Text) : List Statement :=
  parseLines marks 0 (splitLines source)

end Script

end Dialogue
