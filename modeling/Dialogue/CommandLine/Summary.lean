import Dialogue.Editor.Completion
import Dialogue.Editor.Symbols
import Dialogue.Jobs.Record

/-!
# What commands print

* `Job.summary` (`run`), `Record.summary` (`history`), `Symbols.summary` (`symbols`): a value on one
  line;
* `Completion.line` (`commands`): a command in a list;
* `Description.page` (`describe`): the page on a command, its blocks set off by empty lines.
-/

namespace Dialogue

open Text

/-- What is printed of a job that has been run. -/
def Jobs.Job.summary (j : Jobs.Job) : Text :=
  shownFields [
    (ofString "script", quoted j.name), (ofString "status", quoted j.status.name),
    (ofString "steps", decimal j.steps), (ofString "error", shownOption quoted j.error)]

/-- What is printed of a record in a history. -/
def Jobs.Record.summary (r : Jobs.Record) : Text :=
  shownFields [
    (ofString "id", r.id.literal), (ofString "script", r.name.literal),
    (ofString "status", quoted r.status.name), (ofString "steps", r.steps.literal)]

/-- What is printed of the names a script declares, with lines counted from one. -/
def Symbols.summary (y : Symbols) : Text :=
  let markers := y.markers.map fun (name, line) => (name, decimal (line + 1))
  let vars := y.vars.map fun (name, type, line) =>
    (name, shownFields [
      (ofString "type", quoted type.name), (ofString "line", decimal (line + 1))])
  shownFields [
    (ofString "markers", shownFields markers), (ofString "variables", shownFields vars)]

/-- A command in a list: its signature and its description. -/
def Completion.line (k : Completion) : Text := k.detail ++ ofString "  " ++ k.documentation

/-- What is printed about a command that is not known. -/
def unknownCommandSummary (command : Text) : Text :=
  shownFields [(ofString "error", quoted (ofString "Unknown Oyster command: " ++ command))]

/-- A parameter as an item of a list. -/
def ParamSpec.pageItem (p : ParamSpec) : Text :=
  ofString " • " ++ p.name ++ ofString " (" ++ p.type.name ++ ofString "): " ++ p.description

/-- The blocks of a list of parameters under a title; none for no parameters. -/
def pageSection (title : String) (params : List ParamSpec) : List Text :=
  if params.isEmpty then []
  else [ofString title ++ ofString ":", joinWith ['\n'] (params.map ParamSpec.pageItem)]

/-- The page on a command. -/
def Description.page (d : Description) : Except TooManyDigits Text :=
  d.signature.map fun signature =>
    joinWith (ofString "\n\n")
      ([d.name ++ ofString " (since " ++ d.since ++ ofString ")", d.description, signature] ++
        pageSection "Required" d.required ++
        pageSection "Optional positional" d.trailing ++
        pageSection "Optional" d.optional ++
        [ofString "Games: " ++ d.gameList ++
          if d.docUrl.isSome then ofString " Documentation" else []])

end Dialogue
