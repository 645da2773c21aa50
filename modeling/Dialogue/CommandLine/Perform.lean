import Dialogue.CommandLine.Play
import Dialogue.Console.Report
import Dialogue.Lint.Check

/-!
# Carrying out commands

* `understand` (`main`): what a command line asks for, once the level of the log is known to be one;
* `Action.files`: the paths under which a command looks;
* `perform`: what comes of a command.
-/

namespace Dialogue.CommandLine

open Text Console Lint Jobs

/-- The levels of the log. -/
def logLevels : List Text :=
  ["CRITICAL", "FATAL", "ERROR", "WARN", "WARNING", "INFO", "DEBUG", "NOTSET"].map ofString

/-- Makes sure that the level given, or else the one of the settings, is one in capitals. -/
def Office.checkLevel (o : Office) (given : Text) : Except Failure Unit :=
  let level := upper (if given.isEmpty then o.settings.logLevel else given)
  if logLevels.contains level then .ok () else .error (.broken (.unknownLevel level))

/-- The paths of the scripts that a command works on. -/
def Action.scripts : Action → List Text
  | .lint paths _ => paths
  | .symbols path | .run path _ => [path]
  | _ => []

/-- The paths under which a command looks for files. -/
def Action.files (o : Office) (a : Action) : List Text :=
  a.scripts ++ match a with
    | .run _ r => (o.historyPath? r.historyFile).toList
    | .history given _ => (o.historyPath? given).toList
    | _ => []

/-- The action that a command line asks for, once the level of the log is known to be one. -/
def understand (reader : Reader) (o : Office) (words : List Text) : Except Failure Action := do
  match ← (reader words).mapError (.refused ∘ .usage) with
  | .help => return .help
  | .command level action =>
    o.checkLevel level
    action.mapError (.refused ∘ .usage)

/-- The diagnostics of a file as they are shown, up to one whose markup is faulty. -/
def shownReports (path : Text) : List Diagnostic → List Text × Option Markup.MarkupError
  | [] => ([], none)
  | d :: rest =>
    match Markup.render (d.report path) with
    | .error e => ([], some e)
    | .ok line =>
      let (lines, e?) := shownReports path rest
      (line :: lines, e?)

/-- Checks a file: the diagnostics as they are shown, and whether they are bad. -/
def lintFile (o : Office) (d : Desk) (strict : Bool) (path : Text) :
    List Text × Except Failure Bool :=
  match d.script path with
  | .error f => ([], .error f)
  | .ok source =>
    match validate .standard o.settings.textMarks source with
    | .error e => ([], .error (.broken (.digits e)))
    | .ok found =>
      match shownReports (Path.normal path) found with
      | (lines, some e) => (lines, .error (.broken (.markup e)))
      | (lines, none) => (lines, .ok (hasErrors found || (strict && !found.isEmpty)))

/-- Checks files in order, up to one that cannot be checked. -/
def lintFiles (o : Office) (d : Desk) (strict : Bool) : List Text → List Text × Except Failure Bool
  | [] => ([], .ok false)
  | path :: rest =>
    match lintFile o d strict path with
    | (lines, .error f) => (lines, .error f)
    | (lines, .ok bad) =>
      let (more, result) := lintFiles o d strict rest
      (lines ++ more, result.map (bad || ·))

/-- The reply to a command that checks files. -/
def lintReply (o : Office) (d : Desk) (strict : Bool) (paths : List Text) : Reply :=
  match lintFiles o d strict paths with
  | (lines, .error f) => d.reply lines (.failed f)
  | (lines, .ok true) => d.reply lines .bad
  | (lines, .ok false) => d.reply (lines ++ [ofString "No errors found."]) .done

/-- The reply to a command that lists records. -/
def historyReply (o : Office) (d : Desk) (given : Text) (limit : Int) : Reply :=
  match o.historyPath? given with
  | none => d.reply [] (.failed (.refused .historyMissing))
  | some path =>
    match d.withHistory (some path) with
    | .error r => r
    | .ok d =>
      match d.files.content? path with
      | .error e => d.reply [] (.failed (.broken (.file e)))
      | .ok content =>
        match (History.file content).recent limit with
        | .error e => d.reply [] (.failed (.broken (.record e)))
        | .ok records => d.reply (records.map Record.summary) .done

/-- The reply to a command that asks about another. -/
def describeReply (d : Desk) (command : Text) : Reply :=
  match Catalog.standard.describe command with
  | none => d.reply [unknownCommandSummary command] .bad
  | some description =>
    match description.page with
    | .error e => d.reply [] (.failed (.broken (.digits e)))
    | .ok page => d.reply [page] .done

/-- The reply to a command that asks for those whose names open with a text. -/
def commandsReply (d : Desk) (typed : Text) : Reply :=
  match Catalog.standard.completions typed with
  | .error e => d.reply [] (.failed (.broken (.digits e)))
  | .ok offers => d.reply (offers.map Completion.line) .done

/-- The reply to a command that asks for the names of a script. -/
def symbolsReply (o : Office) (d : Desk) (path : Text) : Reply :=
  match d.script path with
  | .error f => d.reply [] (.failed f)
  | .ok source => d.reply [(symbols o.settings.textMarks source).summary] .done

/-- The reply to a command that runs a script, in no more than `fuel` steps. -/
def runReply (o : Office) (fuel : Nat) (d : Desk) (t : Terminal) (path : Text) (r : RunOptions) :
    Option Reply :=
  match Play.begin o d path r t with
  | .error r => some r
  | .ok p => (p.settle fuel).map Play.finish

/-- How the commands are used. -/
def helpLines : List Text :=
  ["Usage: oyster [--log-level LEVEL] COMMAND [ARGS]...", "",
    "  config    Show the effective runtime configuration.",
    "  lint      Report syntax, parameter, variable and compatibility problems.",
    "  run       Run a script in the terminal.",
    "  history   List recently finished runs.",
    "  describe  Show catalog documentation for a command.",
    "  commands  List known commands with their signatures.",
    "  symbols   List line markers and variables declared by a script."].map ofString

/-- What comes of an action on a terminal; `none` if a run does not end within `fuel` steps. -/
def carryOut (o : Office) (fuel : Nat) (d : Desk) (t : Terminal) : Action → Option Reply
  | .help => some (d.reply helpLines .done)
  | .config => some (d.reply [o.settings.summary] .done)
  | .lint paths strict => some (lintReply o d strict paths)
  | .run path r => runReply o fuel d t path r
  | .history given limit => some (historyReply o d given limit)
  | .describe command => some (describeReply d command)
  | .commands typed => some (commandsReply d typed)
  | .symbols path => some (symbolsReply o d path)

/-- What comes of a command line. -/
def perform (reader : Reader) (o : Office) (fuel : Nat) (d : Desk) (t : Terminal)
    (words : List Text) : Option Reply :=
  match understand reader o words with
  | .error f => some (d.reply [] (.failed f))
  | .ok action => carryOut o fuel d t action

end Dialogue.CommandLine
