import Dialogue.Machine.Host

/-!
# A game that only echoes

For trying scripts out without their game: a bridge that keeps the commands it is sent and answers
questions from a fixed inventory (`EchoGameBridge`).
-/

namespace Dialogue.Machine

open Text

/-- What an echoing game knows and has been sent. -/
structure Echo where
  /-- The items of each person. -/
  inventory : Table (List Text) := []
  /-- The commands, the latest last. -/
  sent : List GameCommand := []
  deriving DecidableEq, Repr

namespace Echo

/-- Whether a person has an item. -/
def has (e : Echo) (person item : Text) : Bool :=
  ((e.inventory.get? person).getD []).contains item

/-- Takes a command. -/
def send (e : Echo) (c : GameCommand) : Text × Echo :=
  (ofString "executed: " ++ c.render, { e with sent := e.sent ++ [c] })

end Echo

/-- The bridge to an echoing game. -/
def Bridge.echo : Bridge Echo where
  send c e := let (response, e') := e.send c; (.ok response, e')
  checkHas person item e := (.ok (e.has person item), e)

end Dialogue.Machine
