import Dialogue.Catalog.Basic

/-!
# The standard catalog

The commands that every host knows (`COMMANDS`), with the games and releases they belong to, and the
aliases of game names (`GAME_ALIASES`).
-/

namespace Dialogue

open Text

namespace Standard

/-- The canonical name of the one game with commands of its own. -/
def greylingGrove : Text := ofString "Christmas at Greyling Grove"

/-- The tag of the release with the first commands. -/
def firstRelease : Text := ofString "4.0.0s"

/-- The tag of the release that brought variables and options. -/
def secondRelease : Text := ofString "4.1.0s"

/-- A parameter written with literals. -/
def param (name : String) (type : ParamType) (description : String)
    (default : Option Scalar := none) : ParamSpec :=
  { name := ofString name, type, description := ofString description, default }

/-- The anchor of a command in the manual: its name in lower case with hyphens. -/
def anchor (name : Text) : Text := (lower name).map fun c => if c = '_' then '-' else c

/-- A command without parameters that every game has had since the first release. -/
def contract (name description : String) : Contract :=
  { name := ofString name
    description := ofString description
    since := firstRelease
    docUrl := some (ofString "https://oyster.readthedocs.io/en/latest/commands.html#" ++
      anchor (ofString name)) }

def textParam : ParamSpec := param "text" .string "Text to push to the conversation"

def instantParam : ParamSpec :=
  param "instant" .bool "If true, push all text instantly, rather than over time"
    (some (.bool false))

def waitParam : ParamSpec :=
  param "wait" .bool "If true, require user input before progressing to the next line"
    (some (.bool true))

/-- The commands in the order of the manual. -/
def contracts : List Contract :=
  [{ contract "Act_Append" "Append text to the current conversation" with
      required := [textParam]
      optional := [instantParam, waitParam] },
    { contract "Act_Speak" "Replace the current conversation's text" with
      required := [textParam]
      optional := [instantParam, waitParam] },
    { contract "Jump_To"
        "Unconditionally jump to a specific line marker in the current script" with
      required := [param "marker" .string "Line marker to jump to"] },
    { contract "Line_Marker" "Define a line marker in the script" with
      required := [param "marker" .string "Marker name"] },
    { contract "Set_Looker"
        ("Updates the object which the player's camera is steered towards; " ++
          "does nothing if the object does not exist") with
      required := [param "looker" .string
          ("The name of the object to look at. 'default' returns the camera to " ++
          "the conversation's original looker")] },
    { contract "Set_Name" "Updates the name of the speaker to the supplied string" with
      required := [param "name" .string "New speaker name"] },
    { contract "Set_Script"
        ("Set the script that the character being interacted with points to, " ++
          "effective on the next interaction") with
      required := [param "script" .string "Script name"] },
    { contract "Set_sprite" "Set the sprite for the character" with
      required := [param "sprite" .string "Sprite name"] },
    { contract "Sys_Wait" "Wait for a specified time" with
      required := [param "time" .int "Time to wait in milliseconds"]
      optional := [param "canSkip" .bool
          "If true, user can skip the wait" (some (.bool false))] },
    { contract "Deliver_Gift" "Deliver a named gift to someone" with
      games := [greylingGrove]
      required := [param "to" .string "Person to deliver to",
        param "giftName" .string
          "The name of the gift to deliver, e.g. the first gift from Alyx is 'Alyx_0'"] },
    { contract "Give_Item"
        ("Attempt to give the player an item; if the player cannot accept it " ++
          "the game keeps it retrievable") with
      required := [param "itemName" .string "Name of the item"] },
    { contract "Check_Has"
        ("Check whether a character has received an item and jump to a line " ++
          "marker accordingly") with
      required := [param "person" .string "The person to check",
        param "itemName" .string "Name of the item to check",
        param "successMarker" .string "Line marker to jump to on success",
        param "failureMarker" .string "Line marker to jump to on failure"] },
    { contract "Give_Achievement" "Unlock an achievement for the player" with
      since := secondRelease
      required := [param "achievement" .string "Achievement identifier"] },
    { contract "Set_IntVar" "Declare or update an integer variable" with
      since := secondRelease
      required := [param "name" .string "Variable name",
        param "value" .int "New value"] },
    { contract "Set_BoolVar" "Declare or update a boolean variable" with
      since := secondRelease
      required := [param "name" .string "Variable name",
        param "value" .bool "New value"] },
    { contract "Set_StringVar" "Declare or update a string variable" with
      since := secondRelease
      required := [param "name" .string "Variable name",
        param "value" .string "New value"] },
    { contract "Show_Options"
        ("Show up to three options and jump to the line marker paired with " ++
          "the chosen one") with
      since := secondRelease
      required := [param "option1" .string "First option text"]
      trailing := [param "option2" .string
          "Second option text, empty to hide" (some (.text [])),
        param "option3" .string
          "Third option text, empty to hide" (some (.text []))]
      optional := [param "lm1" .string "Line marker for the first option" (some (.text [])),
        param "lm2" .string
          "Line marker for the second option" (some (.text [])),
        param "lm3" .string "Line marker for the third option" (some (.text []))] },
    { contract "Meta" "Declare the target game and Oyster version of the script" with
      optional := [param "game" .string "Game the script is written for",
        param "version" .string "Oyster version the script targets"] }]

/-- The aliases of game names. -/
def aliases : List (Text × Text) :=
  [(ofString "base", universalGame),
    (ofString "christmas at greyling grove", greylingGrove),
    (ofString "greyling grove", greylingGrove),
    (ofString "grovegame", greylingGrove),
    (ofString "cagg", greylingGrove)]

end Standard

/-- The catalog of the standard commands under other aliases. -/
def Catalog.standardWith (aliases : List (Text × Text)) : Catalog :=
  { table := Standard.contracts.map fun c => (lower c.name, c)
    aliases := Catalog.foldAliases aliases }

/-- The standard catalog. -/
def Catalog.standard : Catalog := .standardWith Standard.aliases

end Dialogue
