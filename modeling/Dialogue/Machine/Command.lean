import Dialogue.Table

/-!
# Commands for the game

What a machine does not carry out itself it forwards to the game as a command with positional
arguments and named options (`GameCommand`).
-/

namespace Dialogue.Machine

open Text

/-- A command forwarded to the game. -/
structure GameCommand where
  name : Text
  arguments : List Text := []
  options : Table Text := []
  deriving DecidableEq, Repr

/-- The command on one line. -/
def GameCommand.render (c : GameCommand) : Text :=
  c.name ++ ofString " [" ++
    joinWith (ofString ", ") (c.arguments ++ c.options.map fun e => e.1 ++ '=' :: e.2) ++
    ofString "]"

end Dialogue.Machine
