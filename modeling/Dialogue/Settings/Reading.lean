import Dialogue.Decimal.Entered
import Dialogue.Json.Reader
import Dialogue.Settings.Basic
import Dialogue.Settings.EnvFile

/-!
# Reading settings

A setting is taken from the environment, else from an environment file, else it has its default. Its
name there is its own after `OYSTER_`, in any case; of names that differ in case only the last
counts. The marks of comments are written as a JSON list of texts, where null leaves them unset.

* `Layer`: the values of one source;
* `SettingsError`: marks that cannot be read, or values that do not suit their settings;
* `Settings.read`: the settings of an environment and a file.
-/

namespace Dialogue

open Text Decimal

/-- Where a setting comes from. -/
inductive Source where
  | environment
  | file
  deriving DecidableEq, Repr

/-- The source's name. -/
def Source.name : Source → Text
  | environment => ofString "EnvSettingsSource"
  | file => ofString "DotEnvSettingsSource"

/-- Why a value does not suit its setting. -/
inductive Defect where
  | notList
  | notText
  | notNumber
  | notWhole
  | tooLong
  | tooSmall
  deriving DecidableEq, Repr

/-- The defect's name. -/
def Defect.name : Defect → Text
  | notList => ofString "tuple_type"
  | notText => ofString "string_type"
  | notNumber => ofString "float_parsing"
  | notWhole => ofString "int_parsing"
  | tooLong => ofString "int_parsing_size"
  | tooSmall => ofString "greater_than_equal"

/-- A value that does not suit its setting. -/
structure Misfit where
  setting : Text
  /-- The number of the item, if one item of a list is to blame. -/
  item : Option Nat := none
  defect : Defect
  deriving DecidableEq, Repr

/-- Why there are no settings. -/
inductive SettingsError where
  /-- A setting is no JSON where it has to be. -/
  | unreadable (setting : Text) (source : Source)
  /-- A setting is nested too deep. -/
  | tooDeep (c : JsonContainer)
  | misfits (found : List Misfit)
  deriving DecidableEq, Repr

/-- The wording for a setting that is no JSON. -/
def unreadableMessage (setting : Text) (source : Source) : Text :=
  ofString "error parsing value for field \"" ++ setting ++ ofString "\" from source \"" ++
    source.name ++ ofString "\""

/-- The names of the settings. -/
def settingNames : List Text :=
  [ofString "app_name", ofString "log_level", ofString "comment_prefixes",
    ofString "wait_time_scale", ofString "max_steps", ofString "history_path"]

/-- The name under which a setting is looked up. -/
def variableName (setting : Text) : Text := ofString "oyster_" ++ setting

/-- The values of one source. -/
structure Layer where
  source : Source
  values : List (Text × Option Text)

/-- The text a layer has for a setting: the last one under its name in any case. -/
def Layer.text? (l : Layer) (setting : Text) : Option Text :=
  (l.values.reverse.find? fun e => lower e.1 = variableName setting).bind Prod.snd

/-- The value a layer has for a setting that is written as JSON; null is none. -/
def Layer.json? (l : Layer) (setting : Text) : Except SettingsError (Option Json) :=
  match l.text? setting with
  | none => .ok none
  | some t =>
    match Json.read t with
    | .ok .null => .ok none
    | .ok v => .ok (some v)
    | .error (.tooDeep c) => .error (.tooDeep c)
    | .error _ => .error (.unreadable setting l.source)

/-- The texts of a list, or what is wrong with its items, counted from `first`. -/
def textsFrom (setting : Text) (first : Nat) : List Json → Except (List Misfit) (List Codes)
  | [] => .ok []
  | v :: rest =>
    match v.codes?, textsFrom setting (first + 1) rest with
    | some t, later => later.map (t :: ·)
    | none, .ok _ => .error [{ setting, item := some first, defect := .notText }]
    | none, .error later => .error ({ setting, item := some first, defect := .notText } :: later)

/-- The texts of a value. -/
def textsOf (setting : Text) : Json → Except (List Misfit) (List Codes)
  | .list items => textsFrom setting 0 items
  | _ => .error [{ setting, defect := .notList }]

/-- A number that is zero or more. -/
def scaleOf (setting t : Text) : Except (List Misfit) Float :=
  match enteredReal? t with
  | none => .error [{ setting, defect := .notNumber }]
  | some f => if 0 ≤ f then .ok f else .error [{ setting, defect := .tooSmall }]

/-- A positive whole number. -/
def countOf (setting t : Text) : Except (List Misfit) Int :=
  match enteredInteger t with
  | .error .unreadable => .error [{ setting, defect := .notWhole }]
  | .error .tooLong => .error [{ setting, defect := .tooLong }]
  | .ok n => if n < 1 then .error [{ setting, defect := .tooSmall }] else .ok n

/-- What is wrong with a value. -/
def misfitsOf {α : Type} : Except (List Misfit) α → List Misfit
  | .ok _ => []
  | .error found => found

/-- A value for a setting that may have none. -/
def ofOption {α β : Type} (f : α → Except (List Misfit) β) (default : β) :
    Option α → Except (List Misfit) β
  | none => .ok default
  | some a => f a

namespace Settings

/-- The settings of texts and marks that were found. -/
def ofFound (text? : Text → Option Text) (marks? : Option Json) : Except SettingsError Settings :=
  let defaults : Settings := {}
  let marks := ofOption (textsOf (ofString "comment_prefixes")) defaults.marks marks?
  let waitScale := ofOption (scaleOf (ofString "wait_time_scale")) defaults.waitScale
    (text? (ofString "wait_time_scale"))
  let stepLimit := ofOption (fun t => (countOf (ofString "max_steps") t).map some) none
    (text? (ofString "max_steps"))
  match marks, waitScale, stepLimit with
  | .ok marks, .ok waitScale, .ok stepLimit =>
    .ok {
      marks, waitScale, stepLimit
      appName := (text? (ofString "app_name")).getD defaults.appName
      logLevel := (text? (ofString "log_level")).getD defaults.logLevel
      historyPath := text? (ofString "history_path") }
  | _, _, _ => .error (.misfits (misfitsOf marks ++ misfitsOf waitScale ++ misfitsOf stepLimit))

/-- The settings of an environment and the content of an environment file, if there is one. -/
def read (environment : Table Text) (file : Option Text) : Except SettingsError Settings := do
  let outer : Layer := ⟨.environment, environment.map fun e => (e.1, some e.2)⟩
  let inner : Layer := ⟨.file, (file.map (EnvFile.read environment)).getD []⟩
  let marks := ofString "comment_prefixes"
  let outerMarks ← outer.json? marks
  let innerMarks ← inner.json? marks
  ofFound (fun setting => outer.text? setting <|> inner.text? setting) (outerMarks <|> innerMarks)

end Settings

end Dialogue
