import Dialogue.CommandLine.Action
import Dialogue.Console.Markup
import Dialogue.Console.Terminal
import Dialogue.Files
import Dialogue.Jobs.Record
import Dialogue.Settings.Basic

/-!
# What commands work with and what comes of them

* `Office`: what all commands share; `Desk`: what one command leaves to the next;
* `Failure`: why a command does not do what it is asked to;
* `Outcome`, `Reply`: how a command ends, with its exit status and what it has shown.
-/

namespace Dialogue.CommandLine

open Text Console

/-- What all commands share. -/
structure Office where
  settings : Settings := {}
  /-- The time at each reading of the clock. -/
  clock : Nat → Time.Timestamp
  /-- The identifier of each run, counted from zero. -/
  newId : Nat → Text
  /-- How an option is shown with its number. -/
  numbered : Nat → Text → Text

/-- What one command leaves to the next. -/
structure Desk where
  files : Files
  /-- How often the clock has been read. -/
  readings : Nat := 0
  /-- How many runs there have been. -/
  runs : Nat := 0

/-- Why a command breaks down. -/
inductive Breakdown where
  | unknownLevel (level : Text)
  | markup (e : Markup.MarkupError)
  | digits (e : TooManyDigits)
  | record (e : Jobs.RecordError)
  | file (e : FileError)
  | trouble (t : Machine.Trouble)

namespace Breakdown

/-- The kind of error that a breakdown is reported as. -/
def kind : Breakdown → Text
  | unknownLevel _ | digits _ => ofString "ValueError"
  | markup e => e.kind
  | record e => e.kind
  | file e => e.kind
  | trouble t => t.kind

/-- The wording, if there is any. -/
def message? : Breakdown → Option Text
  | unknownLevel level => some (ofString "Unknown level: " ++ quoted level)
  | markup e => some e.message
  | digits e => some e.message
  | record e => e.message?
  | file e => some e.message
  | trouble t => some t.message

end Breakdown

/-- Why a command does not do what it is asked to. -/
inductive Failure where
  | refused (r : Refusal)
  | broken (b : Breakdown)

/-- How a command ends. -/
inductive Outcome where
  | done
  /-- It has done its work, and the finding is bad. -/
  | bad
  | failed (f : Failure)

/-- The exit status. -/
def Outcome.status : Outcome → Nat
  | done => 0
  | bad | failed (.broken _) => 1
  | failed (.refused _) => 2

/-- What comes of a command. -/
structure Reply where
  shown : List Shown := []
  outcome : Outcome := .done
  desk : Desk

/-- The reply that shows lines. -/
def Desk.reply (d : Desk) (lines : List Text) (outcome : Outcome) : Reply :=
  { shown := lines.map fun line => .text (line ++ ['\n']), outcome, desk := d }

end Dialogue.CommandLine
