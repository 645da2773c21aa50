/-!
# Script text

Scripts, parameters and messages are lists of characters, so that columns and indexes count
characters and every scan is a recursion on the text. This module holds the operations that the
readers and writers share:

* `Text.ofString`: a text written as a literal;
* `joinWith`: texts with a separator between neighbours;
* `consHead`: a character in front of the first piece of a list of pieces, the step by which the
  splitting functions keep a character;
* `inRuns`: a class of characters given by runs of code points.
-/

namespace Dialogue

/-- A text is the list of its characters. -/
abbrev Text := List Char

namespace Text

/-- The text of a string. -/
def ofString (s : String) : Text := s.toList

/-- The texts in order, with `separator` between neighbours. -/
def joinWith (separator : Text) : List Text → Text
  | [] => []
  | [t] => t
  | t :: u :: ts => t ++ separator ++ joinWith separator (u :: ts)

/-- Puts a character in front of the first piece; a list without pieces gets its first. -/
def consHead (c : Char) : List Text → List Text
  | [] => [[c]]
  | p :: ps => (c :: p) :: ps

/-- Whether the code point of a character lies in one of the runs, each given by its ends. -/
def inRuns (runs : List (Nat × Nat)) (c : Char) : Bool :=
  runs.any fun run => run.1 ≤ c.toNat && c.toNat ≤ run.2

/-- The first `limit` items; a negative limit leaves out that many at the end. -/
def takeLimit {α : Type} (limit : Int) (items : List α) : List α :=
  if limit < 0 then items.take (items.length - limit.natAbs) else items.take limit.toNat

end Text

end Dialogue
