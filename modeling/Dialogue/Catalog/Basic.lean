import Dialogue.Catalog.Contract
import Dialogue.Table
import Dialogue.Text.Case
import Dialogue.Text.Order

/-!
# Catalogs

A catalog finds contracts by command name in any case, and games by their aliases. It is built
from a list of contracts, no two of which may have the same name in lower case.

* `Catalog.ofContracts` (`CommandCatalog`): the catalog of some contracts, or the name that occurs
  twice;
* `Catalog.find?` (`resolve`), `Catalog.get` (`__getitem__`), `Catalog.has`: the contract of a
  command, where it may be missing and where it has to be there, and whether there is one;
* `Catalog.contracts`: all of them, by name;
* `Catalog.resolveGame` (`resolve_game`): the canonical name of a game.
-/

namespace Dialogue

open Text

/-- Contracts by lower-case name, and canonical game names by case-folded alias. -/
structure Catalog where
  table : Table Contract
  aliases : Table Text

/-- The name of a contract whose lower-case name occurs before. -/
structure DuplicateName where
  name : Text
  deriving DecidableEq, Repr

/-- The wording of the refusal. -/
def DuplicateName.message (e : DuplicateName) : Text :=
  ofString "Duplicate Oyster command in catalog: " ++ e.name

/-- A command that had to be in the catalog and is not, by its lower-case name. -/
structure UnknownCommand where
  name : Text
  deriving DecidableEq, Repr

namespace Catalog

/-- Enters contracts after those of `table`, up to the first whose name is there. -/
def enter (table : Table Contract) : List Contract → Except DuplicateName (Table Contract)
  | [] => .ok table
  | c :: cs =>
    if table.has (lower c.name) then .error ⟨c.name⟩
    else enter (table ++ [(lower c.name, c)]) cs

/-- The aliases, their keys case-folded; of two with the same key the later one counts. -/
def foldAliases (aliases : List (Text × Text)) : Table Text :=
  aliases.foldl (fun t e => t.put (fold e.1) e.2) []

/-- The catalog of some contracts. -/
def ofContracts (contracts : List Contract) (aliases : List (Text × Text)) :
    Except DuplicateName Catalog :=
  (enter [] contracts).map fun table => { table, aliases := foldAliases aliases }

/-- The contract of a command. -/
def find? (c : Catalog) (command : Text) : Option Contract := c.table.get? (lower command)

/-- The contract of a command that has to be there. -/
def get (c : Catalog) (command : Text) : Except UnknownCommand Contract :=
  match c.find? command with
  | some contract => .ok contract
  | none => .error ⟨lower command⟩

/-- Whether the catalog has the command. -/
def has (c : Catalog) (command : Text) : Bool :=
  match c.get command with
  | .ok _ => true
  | .error _ => false

/-- The lower-case names in the order of entering. -/
def names (c : Catalog) : List Text := c.table.keys

/-- How many contracts there are. -/
def size (c : Catalog) : Nat := c.table.length

/-- Whether one lower-case name comes no later than another. -/
def nameLE (a b : Contract) : Bool := noLater (lower a.name) (lower b.name)

/-- The contracts by lower-case name. -/
def contracts (c : Catalog) : List Contract := (c.table.map Prod.snd).mergeSort nameLE

/-- The canonical name of a game: that of its alias, else the first canonical name that it spells
in another case, else the name itself, trimmed. -/
def resolveGame (c : Catalog) (game : Text) : Text :=
  let title := trim game
  match c.aliases.get? (fold title) with
  | some canonical => canonical
  | none =>
    match c.aliases.find? fun e => fold e.2 = fold title with
    | some e => e.2
    | none => title

/-- The catalog, or `standard` if it is empty. -/
def orElse (c : Catalog) (standard : Catalog) : Catalog := if c.table.isEmpty then standard else c

end Catalog

end Dialogue
