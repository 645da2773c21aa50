import Dialogue.Text.Basic

/-!
# What a command line asks for

How words become options and values is the business of a library, and so it is taken as given here.
What it is told of each command is what there is to be asked for.

* `RunOptions` (`run`): how a script is to be run;
* `Action` (`show_config`, `lint`, `run`, `history`, `describe`, `commands`, `symbols`): what a command
  is asked to do;
* `Request`, `Reader` (`app`): what a command line asks for, and what tells that from its words;
* `Refusal` (`_read_script`, `history`): why a command line is refused.
-/

namespace Dialogue.CommandLine

open Text

/-- How a script is to be run. -/
structure RunOptions where
  /-- The step limit; zero leaves it to the settings. -/
  limit : Option Int := none
  noWait : Bool := false
  echoGame : Bool := false
  /-- Where the record goes; an empty path leaves it to the settings. -/
  historyFile : Text := []
  deriving DecidableEq, Repr

/-- What a command is asked to do. -/
inductive Action where
  /-- To say how it is used. -/
  | help
  | config
  | lint (paths : List Text) (strict : Bool := false)
  | run (path : Text) (options : RunOptions := {})
  | history (historyFile : Text := []) (limit : Int := 20)
  | describe (command : Text)
  | commands (typed : Text := [])
  | symbols (path : Text)
  deriving DecidableEq, Repr

/-- What a command line asks for. -/
inductive Request where
  /-- To say how the commands are used. -/
  | help
  /-- To give the log a level, unless it is empty, and then to act; or the wording of what is amiss
  with the words of the command. -/
  | command (level : Text) (action : Except Text Action)

/-- What tells from the words of a command line what is asked for, or what is amiss with them. -/
abbrev Reader := List Text → Except Text Request

/-- Why a command line is refused. -/
inductive Refusal where
  /-- Something is amiss with its words. -/
  | usage (message : Text)
  | scriptMissing (path : Text)
  | historyMissing
  deriving DecidableEq, Repr

/-- The wording of the refusal. -/
def Refusal.message : Refusal → Text
  | usage message => message
  | scriptMissing path => ofString "Script not found: " ++ path
  | historyMissing => ofString "Provide --history-file or set OYSTER_HISTORY_PATH"

end Dialogue.CommandLine
