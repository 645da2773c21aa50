import Dialogue.CommandLine.Action
import Dialogue.Decimal.Entered
import Dialogue.Table

/-!
# Reading the words of a command line

The reader of command lines that the program is run with. What comes of a request does not depend on
it, and any other `Reader` will do in its place.

The words after a command are options and arguments. An option is named by a word that begins with a
hyphen; some options take a value, which is the next word whatever it looks like, or follows an
equals sign. After two hyphens on their own no more options come.

* `Meaning`: what an option is for;
* `Words`: the words sorted out; `sortWords`: sorts them out, or says what is amiss;
* `Subcommand`: the commands with their names and their options;
* `readWords`: what a command line asks for.
-/

namespace Dialogue.CommandLine

open Text

/-- What an option is for. -/
inductive Meaning where
  /-- It gives a value to a key. -/
  | entry (key : Text)
  /-- It switches a key on or off. -/
  | switch (key : Text) (on : Bool)
  | help
  deriving DecidableEq, Repr

/-- The options of a command with what they are for. -/
abbrev Options := List (Text × Meaning)

/-- The words of a command, sorted out. -/
structure Words where
  entries : Table Text := []
  switches : Table Bool := []
  help : Bool := false
  arguments : List Text := []
  deriving DecidableEq, Repr

/-- The value given for a key, if there is one. -/
def Words.entry? (w : Words) (key : String) : Option Text := w.entries.get? (ofString key)

/-- Whether a key is switched on. -/
def Words.isOn (w : Words) (key : String) : Bool := (w.switches.get? (ofString key)).getD false

/-- Whether a word names an option. -/
def isOption (word : Text) : Bool := word.head? = some '-' && decide (1 < word.length)

/-- The name of an option, and the value attached to it. -/
def splitOption (word : Text) : Text × Option Text :=
  let name := word.takeWhile (· ≠ '=')
  match word.drop name.length with
  | [] => (name, none)
  | _ :: value => (name, some value)

/-- Sorts words out, after `w`. The arguments end the options unless they may be mixed. -/
def sortWords (options : Options) (mixed : Bool) (w : Words) :
    List Text → Except Text Words
  | [] => .ok w
  | word :: rest =>
    if word = ofString "--" then .ok { w with arguments := w.arguments ++ rest }
    else if !isOption word then
      if mixed then sortWords options mixed { w with arguments := w.arguments ++ [word] } rest
      else .ok { w with arguments := w.arguments ++ word :: rest }
    else
      let (name, value?) := splitOption word
      match options.lookup name, value? with
      | none, _ => .error (ofString "No such option: " ++ name)
      | some (.entry key), some value =>
        sortWords options mixed { w with entries := w.entries.put key value } rest
      | some (.entry key), none =>
        match rest.head? with
        | none => .error (ofString "Option '" ++ name ++ ofString "' requires an argument.")
        | some value =>
          sortWords options mixed { w with entries := w.entries.put key value } (rest.drop 1)
      | some _, some _ => .error (ofString "Option '" ++ name ++ ofString "' does not take a value.")
      | some (.switch key on), none =>
        sortWords options mixed { w with switches := w.switches.put key on } rest
      | some .help, none => sortWords options mixed { w with help := true } rest
termination_by words => words.length
decreasing_by all_goals (simp only [List.length_cons, List.length_drop]; omega)

/-- The commands. -/
inductive Subcommand where
  | config
  | lint
  | run
  | history
  | describe
  | commands
  | symbols
  deriving DecidableEq, Repr

namespace Subcommand

/-- The command's name. -/
def name : Subcommand → Text
  | config => ofString "config"
  | lint => ofString "lint"
  | run => ofString "run"
  | history => ofString "history"
  | describe => ofString "describe"
  | commands => ofString "commands"
  | symbols => ofString "symbols"

/-- Every command. -/
def all : List Subcommand := [config, lint, run, history, describe, commands, symbols]

/-- The command of a name. -/
def ofName? (name : Text) : Option Subcommand := all.find? fun c => c.name = name

end Subcommand

/-- The option that every command has. -/
def helpOption : Text × Meaning := (ofString "--help", .help)

/-- An option that takes a value. -/
def entryOption (key : String) : Text × Meaning :=
  (ofString "--" ++ ofString key, .entry (ofString key))

/-- The two options of a switch. -/
def switchOptions (key : String) : Options :=
  [(ofString "--" ++ ofString key, .switch (ofString key) true),
    (ofString "--no-" ++ ofString key, .switch (ofString key) false)]

/-- The options of a command. -/
def Subcommand.options : Subcommand → Options
  | config | describe | symbols => [helpOption]
  | lint => helpOption :: switchOptions "strict"
  | run =>
    [helpOption, entryOption "max-steps", entryOption "history-file"] ++
      switchOptions "no-wait" ++ switchOptions "echo-game"
  | history => [helpOption, entryOption "history-file", entryOption "limit"]
  | commands => [helpOption, entryOption "prefix"]

/-- The whole number given for a key, if one is given. -/
def Words.whole? (w : Words) (key : String) : Except Text (Option Int) :=
  match w.entry? key with
  | none => .ok none
  | some t =>
    match Decimal.enteredInteger t with
    | .ok n => .ok (some n)
    | .error e => .error (ofString ("Invalid value for '--" ++ key ++ "': ") ++ e.message)

/-- The wording for an argument too many. -/
def unexpected (argument : Text) : Text :=
  ofString "Got unexpected extra argument (" ++ argument ++ [')']

/-- Makes sure that there are no arguments. -/
def Words.noArgument (w : Words) : Except Text Unit :=
  match w.arguments with
  | [] => .ok ()
  | argument :: _ => .error (unexpected argument)

/-- The one argument there is. -/
def Words.oneArgument (w : Words) (name : String) : Except Text Text :=
  match w.arguments with
  | [] => .error (ofString ("Missing argument '" ++ name ++ "'."))
  | [argument] => .ok argument
  | _ :: extra :: _ => .error (unexpected extra)

/-- The arguments, of which there is one at least. -/
def Words.someArguments (w : Words) (name : String) : Except Text (List Text) :=
  match w.arguments with
  | [] => .error (ofString ("Missing argument '" ++ name ++ "'."))
  | arguments => .ok arguments

/-- What a command is asked to do by its words. -/
def Subcommand.actionOf (c : Subcommand) (w : Words) : Except Text Action :=
  match c with
  | .config => do
    w.noArgument
    return .config
  | .lint => do
    let paths ← w.someArguments "PATHS..."
    return .lint paths (w.isOn "strict")
  | .run => do
    let path ← w.oneArgument "PATH"
    let limit ← w.whole? "max-steps"
    return .run path {
      limit, noWait := w.isOn "no-wait", echoGame := w.isOn "echo-game"
      historyFile := (w.entry? "history-file").getD [] }
  | .history => do
    w.noArgument
    let limit ← w.whole? "limit"
    return .history ((w.entry? "history-file").getD []) (limit.getD 20)
  | .describe => do
    let command ← w.oneArgument "COMMAND"
    return .describe command
  | .commands => do
    w.noArgument
    return .commands ((w.entry? "prefix").getD [])
  | .symbols => do
    let path ← w.oneArgument "PATH"
    return .symbols path

/-- What a command is asked to do. To be asked for help counts before anything that is amiss with
arguments and values. -/
def Subcommand.action (c : Subcommand) (words : List Text) : Except Text Action := do
  let w ← sortWords c.options true {} words
  if w.help then return .help else c.actionOf w

/-- What a command line asks for. -/
def readWords : Reader := fun words => do
  let w ← sortWords [helpOption, entryOption "log-level"] false {} words
  if w.help then return .help
  match w.arguments with
  | [] => throw (ofString "Missing command.")
  | name :: rest =>
    match Subcommand.ofName? name with
    | none => throw (ofString "No such command '" ++ name ++ ofString "'.")
    | some c => return .command ((w.entry? "log-level").getD []) (c.action rest)

end Dialogue.CommandLine
