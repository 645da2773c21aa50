import Dialogue.Editor.Description
import Dialogue.Script.Verb

/-!
# Symbols of a document

* `symbols` (`document_symbols`): the line markers and variables that a script declares, each with
  the line of its first declaration;
* `commandAt` (`command_at`): the description of the command written on a line.
-/

namespace Dialogue

open Text Script

/-- The names a script declares. -/
structure Symbols where
  /-- Markers with their lines. -/
  markers : Table Int := []
  /-- Variables with their types and lines. -/
  vars : Table (ParamType × Int) := []
  deriving DecidableEq, Repr

namespace Symbols

/-- Adds what a statement declares. -/
def add (y : Symbols) (s : Statement) : Symbols :=
  match s.params.head?, s.verb? with
  | some p, some .mark => { y with markers := y.markers.putNew p.value s.line }
  | some p, some v =>
    match v.declares with
    | some type => { y with vars := y.vars.putNew p.value (type, s.line) }
    | none => y
  | _, _ => y

end Symbols

/-- The names a script declares. -/
def symbols (marks : List Text) (source : Text) : Symbols :=
  (parse marks source).foldl Symbols.add {}

/-- The description of the command on a line, if it is a command line of a known command. -/
def Catalog.commandAt (c : Catalog) (source : Text) (line : Int) : Option Description :=
  if line < 0 then none
  else do
    let raw ← (splitLines source)[line.toNat]?
    let statement ← Statement.ofLine defaultMarks line raw
    c.describe statement.command

end Dialogue
