import Dialogue.Catalog.Contract
import Dialogue.Script.Statement
import Dialogue.Table

/-!
# Commands with a meaning of their own

A few commands are carried out by the machine itself; all others are forwarded to the game.

* `Verb` (`_handlers`): those commands, found by lower-case name;
* `Verb.declares` (`DECLARING_COMMANDS`): the type of variable that a command declares;
* `Statement.marker?`, `labels` (`build_label_index`): the line markers of a script, each at its
  first declaration.
-/

namespace Dialogue

open Text

/-- A command that the machine carries out. -/
inductive Verb where
  | speak
  | mark
  | header
  | jump
  | setInt
  | setBool
  | setString
  | wait
  | offer
  | check
  deriving DecidableEq, Repr

namespace Verb

/-- The lower-case names. -/
def names : Table Verb :=
  [(ofString "act_speak", speak), (ofString "act_append", speak), (ofString "line_marker", mark),
    (ofString "meta", header), (ofString "jump_to", jump), (ofString "set_intvar", setInt),
    (ofString "set_boolvar", setBool), (ofString "set_stringvar", setString),
    (ofString "sys_wait", wait), (ofString "show_options", offer), (ofString "check_has", check)]

/-- The command of a lower-case name. -/
def ofKey? (key : Text) : Option Verb := names.get? key

/-- The type of the variable that the command declares. -/
def declares : Verb → Option ParamType
  | setInt => some .int
  | setBool => some .bool
  | setString => some .string
  | _ => none

end Verb

namespace Statement

/-- The machine's command, if the statement is one. -/
def verb? (s : Statement) : Option Verb := Verb.ofKey? s.key

/-- The line marker that the statement declares: the value of its first parameter. -/
def marker? (s : Statement) : Option Text :=
  if s.verb? = some .mark then s.params.head?.map Param.value else none

end Statement

namespace Script

/-- Enters the markers of statements that are numbered from `first`. -/
def enterLabels (first : Nat) (table : Table Nat) : List Statement → Table Nat
  | [] => table
  | s :: rest =>
    enterLabels (first + 1)
      (match s.marker? with
        | some m => table.putNew m first
        | none => table) rest

/-- The markers of a script with the number of the statement that declares each first. -/
def labels (script : List Statement) : Table Nat := enterLabels 0 [] script

end Script

end Dialogue
