import Dialogue.Text.Numeral

/-!
# Contracts of commands

A contract says which parameters a command takes, of which types, since which release and in which
games.

* `ParamType`, `Scalar`, `ParamSpec` (`CommandParam`): one parameter, its type and its default;
* `Contract` (`CommandContract`): the parameters that are required, those that may follow by
  position, and those that are given by name;
* `versionNumber` (`version_number`): a version tag as a number that can be compared.
-/

namespace Dialogue

open Text

/-- The type of a parameter. Catalogs may name types that no value has. -/
inductive ParamType where
  | string
  | int
  | bool
  | other (name : Text)
  deriving DecidableEq, Repr

/-- The type's name. -/
def ParamType.name : ParamType → Text
  | .string => ofString "string"
  | .int => ofString "int"
  | .bool => ofString "bool"
  | .other name => name

/-- The type of a name. -/
def ParamType.ofName (name : Text) : ParamType :=
  if name = ofString "string" then .string
  else if name = ofString "int" then .int
  else if name = ofString "bool" then .bool
  else .other name

/-- A value that a parameter defaults to or a variable holds. -/
inductive Scalar where
  | int (i : Int)
  | bool (b : Bool)
  | text (t : Text)
  deriving DecidableEq, Repr

/-- What a contract says of one parameter. -/
structure ParamSpec where
  name : Text
  type : ParamType
  description : Text := []
  default : Option Scalar := none
  deriving DecidableEq, Repr

/-- The game that stands for all games. -/
def universalGame : Text := ofString "Base"

/-- What a catalog says of one command. -/
structure Contract where
  name : Text
  description : Text := []
  /-- The tag of the release that introduced the command. -/
  since : Text
  games : List Text := [universalGame]
  required : List ParamSpec := []
  /-- Positional values that may follow the required ones. -/
  trailing : List ParamSpec := []
  /-- Values that may be given by name. -/
  optional : List ParamSpec := []
  docUrl : Option Text := none
  deriving DecidableEq, Repr

namespace Contract

/-- Whether every game has the command. -/
def isUniversal (c : Contract) : Bool := c.games.isEmpty || c.games.contains universalGame

/-- The first optional parameter of a name. -/
def optionalParam? (c : Contract) (name : Text) : Option ParamSpec :=
  c.optional.find? (·.name = name)

end Contract

/-- The number of a version tag: the digits at the start of the trimmed tag, its dots left out.
A tag that opens with no digit has none. -/
def versionNumber (tag : Text) : Except TooManyDigits (Option Nat) :=
  let digits := ((trim tag).filter (· ≠ '.')).takeWhile isDigit
  if digits.isEmpty then .ok none else (natural digits).map some

end Dialogue
