import Dialogue.Catalog.Basic
import Dialogue.Text.Quoted

/-!
# What an editor shows of a command

Hovers and completions are made from a description of the command: the data of its contract that a
reader wants to see.

* `Catalog.describe` (`CommandCatalog.describe`): the description of a command in any case;
* `Description.signature` (`signature`, `_param_signature`): name and parameters on one line. A
  default that is an integer with too many digits is refused;
* `Description.hover` (`hover_markdown`): the hover text, in Markdown;
* `Description.snippet` (`_snippet`): the text a completion inserts, with numbered placeholders.
-/

namespace Dialogue

open Text

/-- The data of a command that an editor shows. -/
structure Description where
  name : Text
  description : Text
  since : Text
  games : List Text
  required : List ParamSpec
  trailing : List ParamSpec
  optional : List ParamSpec
  docUrl : Option Text
  deriving DecidableEq, Repr

/-- The description of the command a contract is for. -/
def Contract.describe (c : Contract) : Description :=
  { name := c.name, description := c.description, since := c.since, games := c.games,
    required := c.required, trailing := c.trailing, optional := c.optional, docUrl := c.docUrl }

/-- The description of a command. -/
def Catalog.describe (c : Catalog) (command : Text) : Option Description :=
  (c.find? command).map Contract.describe

/-- A default as it is shown: text between quotes, numbers and truth values bare. -/
def Scalar.shown : Scalar → Except TooManyDigits Text
  | .int i => limitedDecimal i
  | .bool b => .ok (ofString (if b then "true" else "false"))
  | .text t => .ok (quoted t)

/-- A parameter with its type and its default. -/
def ParamSpec.signature (p : ParamSpec) : Except TooManyDigits Text :=
  let typed := p.name ++ ofString ": " ++ p.type.name
  match p.default with
  | none => .ok typed
  | some d => d.shown.map fun shown => typed ++ ofString " = " ++ shown

/-- A parameter as an item of a list in a hover text. -/
def ParamSpec.hoverItem (p : ParamSpec) : Text :=
  ofString "- \x60" ++ p.name ++ ofString "\x60 (" ++ p.type.name ++ ofString "): " ++ p.description

/-- What stands in a snippet for a value of the type. -/
def ParamType.blankValue : ParamType → Text
  | .string => ofString "\"\""
  | .int => ofString "0"
  | _ => ofString "false"

namespace Description

/-- All parameters, in the order in which they are shown. -/
def params (d : Description) : List ParamSpec := d.required ++ d.trailing ++ d.optional

/-- Name and parameters on one line. -/
def signature (d : Description) : Except TooManyDigits Text :=
  (d.params.mapM ParamSpec.signature).map fun params =>
    d.name ++ ofString " [" ++ joinWith (ofString ", ") params ++ ofString "]"

/-- The lines of a list of parameters under a title; none for no parameters. -/
def hoverSection (title : String) (params : List ParamSpec) : List Text :=
  if params.isEmpty then []
  else [[], ofString title ++ ofString ":"] ++ params.map ParamSpec.hoverItem

/-- The games, or the universal one when none is given. -/
def gameList (d : Description) : Text :=
  let games := joinWith (ofString ", ") d.games
  if games.isEmpty then universalGame else games

/-- The hover text. -/
def hover (d : Description) : Except TooManyDigits Text :=
  d.signature.map fun signature =>
    joinWith ['\n']
      ([ofString "**" ++ d.name ++ ofString "** _(since " ++ d.since ++ ofString ")_",
          [], d.description, [], ofString "\x60" ++ signature ++ ofString "\x60"] ++
        hoverSection "Required" d.required ++
        hoverSection "Optional positional" d.trailing ++
        hoverSection "Optional" d.optional ++
        [[], ofString "Games: " ++ d.gameList] ++
        match d.docUrl with
        | some url =>
          if url.isEmpty then [] else [ofString "[Documentation](" ++ url ++ ofString ")"]
        | none => [])

/-- Placeholders, numbered from `first`, for parameters. -/
def placeholdersFrom (first : Nat) : List ParamSpec → List Text
  | [] => []
  | p :: ps =>
    (ofString "$\x7b" ++ decimal first ++ ofString ":" ++ p.type.blankValue ++ ofString "\x7d") ::
      placeholdersFrom (first + 1) ps

/-- The text a completion inserts: the command with a placeholder for each required parameter. -/
def snippet (d : Description) : Text :=
  d.name ++ ofString " [" ++ joinWith (ofString ", ") (placeholdersFrom 1 d.required) ++
    ofString "]"

end Description

end Dialogue
