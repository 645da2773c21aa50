import Dialogue.Machine.Command
import Dialogue.Machine.State

/-!
# Hosts

A host is what a machine runs on: a display that lines are appended to, a prompt that answers with a
choice, a timer, and perhaps a game. Its calls may fail, and the prompt and the timer may not come
back. A host is given by functions on a state of its own: `ω` for display, prompt and timer, `β` for
the game.

* `Host` (`ScriptOutput`), `Bridge` (`GameBridge`): the calls;
* `Event`: what a run leaves behind on its host;
* `Session` (`OysterVM`): a machine on a host.
-/

namespace Dialogue.Machine

open Text

/-- What becomes of a call that may not come back. -/
inductive Awaited (α : Type) where
  | back (answer : Except Trouble α)
  | pending

/-- The calls to a game. -/
structure Bridge (β : Type) where
  /-- Carries out a command; the response is for the record only. -/
  send : GameCommand → β → Except Trouble Text × β
  /-- Whether a person has an item. -/
  checkHas : Text → Text → β → Except Trouble Bool × β

/-- The calls to a host. -/
structure Host (ω β : Type) where
  appendLine : Text → ω → Except Trouble Unit × ω
  /-- The number of the chosen option, or `none` when the prompt was dismissed. -/
  choose : List Text → ω → Awaited (Option Int) × ω
  /-- Sleeps for some seconds. -/
  sleep : Float → ω → Awaited Unit × ω
  bridge : Option (Bridge β) := none

/-- What a run leaves behind on its host. -/
inductive Event where
  | line (text : Text)
  | prompt (options : List Text)
  | sleep (seconds : Float)
  | sent (command : GameCommand)

/-- A machine on a host. -/
structure Session (ω β : Type) where
  state : State
  output : ω
  game : β
  /-- What has happened, the latest first. -/
  log : List Event := []

end Dialogue.Machine
