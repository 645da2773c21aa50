import Dialogue.Text.Blank

/-!
# Scanning bracket content

Commas and equals signs count only outside double-quoted strings. A backslash, inside quotes or
not, keeps the next character as it is, so that an escaped quote does not open or close a string;
a string that is never closed runs to the end.

* `Mode`: what the characters read so far mean for the next one;
* `findTopLevel` (`find_top_level`): the first place of a character outside quotes;
* `splitParams` (`split_params`): the trimmed pieces between top-level commas. A blank last piece is
  left out, a blank piece elsewhere is kept;
* `splitNamed` (`split_named`): name and value around the first top-level equals sign.
-/

namespace Dialogue.Script

open Text

/-- Whether the scan is inside a string, and whether the next character is kept as it is. -/
structure Mode where
  inQuotes : Bool
  escaped : Bool
  deriving DecidableEq, Repr

namespace Mode

/-- Where every scan starts. -/
def start : Mode := ⟨false, false⟩

/-- The mode after one more character. -/
def next (m : Mode) (c : Char) : Mode :=
  if m.escaped then { m with escaped := false }
  else if c = '\\' then { m with escaped := true }
  else if c = '"' then { m with inQuotes := !m.inQuotes }
  else m

/-- Whether a separator at this place counts. -/
def isTop (m : Mode) : Bool := !m.inQuotes && !m.escaped

/-- The mode after a whole text. -/
def after (m : Mode) (t : Text) : Mode := t.foldl next m

end Mode

/-- The first place, from `m` on, where `target` stands outside quotes and unescaped. The double
quote and the backslash steer the scan and are never found. -/
def findFrom (target : Char) (m : Mode) : Text → Option Nat
  | [] => none
  | c :: r =>
    if m.isTop ∧ c ≠ '\\' ∧ c ≠ '"' ∧ c = target then some 0
    else (findFrom target (m.next c) r).map (· + 1)

/-- The first place where `target` stands outside quotes and unescaped. -/
def findTopLevel (token : Text) (target : Char) : Option Nat := findFrom target .start token

/-- The pieces between the commas that count. -/
def piecesFrom (m : Mode) : Text → List Text
  | [] => [[]]
  | c :: r =>
    if m.isTop ∧ c = ',' then [] :: piecesFrom m r else consHead c (piecesFrom (m.next c) r)

/-- The list without its last piece if that piece is empty. -/
def dropEmptyEnd : List Text → List Text
  | [] => []
  | [p] => if p = [] then [] else [p]
  | p :: q :: ps => p :: dropEmptyEnd (q :: ps)

/-- The parameters of a bracket content. -/
def splitParams (content : Text) : List Text :=
  dropEmptyEnd ((piecesFrom .start content).map trim)

/-- Name and value of a named parameter. -/
def splitNamed (token : Text) : Option (Text × Text) :=
  (findTopLevel token '=').map fun i => (trim (token.take i), trim (token.drop (i + 1)))

theorem Mode.after_append (m : Mode) (t u : Text) : m.after (t ++ u) = (m.after t).after u := by
  simp [Mode.after]

theorem piecesFrom_ne_nil (m : Mode) (t : Text) : piecesFrom m t ≠ [] := by
  cases t with
  | nil => simp [piecesFrom]
  | cons c r =>
    unfold piecesFrom
    split
    · simp
    · cases piecesFrom (m.next c) r <;> simp [consHead]

end Dialogue.Script
