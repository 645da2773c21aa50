import Dialogue.Editor.Description

/-!
# Completions

Completing a command offers every contract whose name opens with what has been typed, in any case.
All offers are refused for the first that cannot be shown.

* `Completion` (`CompletionItem`): what an editor lists and inserts;
* `Catalog.completions` (`completion_items`): the offers, by lower-case name.
-/

namespace Dialogue

open Text

/-- One offer of a completion list. -/
structure Completion where
  label : Text
  detail : Text
  documentation : Text
  insertText : Text
  deriving DecidableEq, Repr

/-- The offer of a command. -/
def Description.completion (d : Description) : Except TooManyDigits Completion :=
  d.signature.map fun detail =>
    { label := d.name, detail, documentation := d.description, insertText := d.snippet }

/-- The offers for what has been typed. -/
def Catalog.completions (c : Catalog) (typed : Text) : Except TooManyDigits (List Completion) :=
  ((c.contracts.filter fun k => (lower typed).isPrefixOf (lower k.name)).filterMap
    fun k => c.describe k.name).mapM Description.completion

end Dialogue
