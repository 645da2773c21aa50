import Dialogue.Json.Literal
import Dialogue.Script.Statement

/-!
# Settings

What a user sets once for all commands.

* `Settings`: the settings with their defaults;
* `Settings.textMarks`: the marks that a script can hold;
* `Settings.summary` (`show_config`): all of them on one line.
-/

namespace Dialogue

open Text Script

/-- The settings. -/
structure Settings where
  appName : Text := ofString "oyster-tools"
  /-- The level of the log unless a command is given one. -/
  logLevel : Text := ofString "WARNING"
  /-- What comments begin with. -/
  marks : List Codes := defaultMarks.map Codes.ofText
  /-- The factor by which waits are stretched. -/
  waitScale : Float := 1.0
  /-- The step limit of a run that is given none. -/
  stepLimit : Option Int := none
  /-- Where the records of runs are kept unless a command is told. -/
  historyPath : Option Text := none

/-- The marks without those that no text begins with, as half a surrogate pair is in them. -/
def Settings.textMarks (s : Settings) : List Text := s.marks.filterMap Codes.toText?

/-- All settings on one line. -/
def Settings.summary (s : Settings) : Text :=
  shownFields [
    (ofString "app_name", quoted s.appName), (ofString "log_level", quoted s.logLevel),
    (ofString "comment_prefixes", shownTuple (s.marks.map Codes.quoted)),
    (ofString "wait_time_scale", Decimal.showFloat s.waitScale),
    (ofString "max_steps", shownOption decimal s.stepLimit),
    (ofString "history_path", shownOption quoted s.historyPath)]

end Dialogue
