import Dialogue.Decimal.Nearest
import Dialogue.Machine.Step

/-!
# Running a script

A run goes from turn to turn: a turn carries out one statement, or waits for the timer or for a
choice, until the machine halts. A fault ends the run as failed, with a line that reports it. If
that line cannot be displayed either, the fault of the display leaves the run, and the machine has
not halted.

* `seconds?`: how long a wait takes;
* `Turn`, `Session.turn` (the loop of `OysterVM.run`): one turn;
* `Session.run` (`OysterVM.run`): turns up to the end, no more than `fuel` of them.
-/

namespace Dialogue.Machine

open Text

variable {ω β : Type}

/-- The seconds that a wait takes under a scale; `none` when they are too many for a double. -/
def seconds? (ms : Int) (scale : Float) : Option Float :=
  (Decimal.nearest? ms.natAbs 1000).map fun d => (if ms < 0 then -d else d) * scale

/-- What a turn leads to. -/
inductive Turn (ω β : Type) where
  | again (x : Session ω β)
  /-- The machine has halted. -/
  | ended (x : Session ω β)
  /-- The prompt or the timer does not come back. -/
  | held (x : Session ω β)
  /-- A fault could not be reported. -/
  | escaped (t : Trouble) (x : Session ω β)

namespace Session

/-- Ends the session as cancelled. -/
def cancel (x : Session ω β) : Session ω β := { x with state := x.state.finish .cancelled }

/-- Ends the session as failed and reports the fault on the display. -/
def fail (h : Host ω β) (x : Session ω β) (f : Fault) : Turn ω β :=
  let noted := { x with state := { x.state with error := some f.report } }
  match noted.say h (ofString "Error during execution: " ++ f.report) with
  | (.ok (), y) => .ended { y with state := y.state.finish .failed }
  | (.error t, y) => .escaped t y

/-- Goes on in a state, or fails. -/
def goOn (h : Host ω β) (x : Session ω β) : Except Fault State → Turn ω β
  | .ok state => .again { x with state }
  | .error f => x.fail h f

/-- A turn of a machine that waits for its timer. -/
def awaitTimer (h : Host ω β) (p : Program) (x : Session ω β) : Turn ω β :=
  match seconds? x.state.waitMs p.waitScale with
  | none => x.fail h .waitTooLong
  | some d =>
    let (reply, output) := h.sleep d x.output
    let y := { x with output, log := .sleep d :: x.log }
    match reply with
    | .pending => .held y
    | .back (.error t) => y.fail h (.trouble t)
    | .back (.ok ()) => y.goOn h (y.state.resumeTimer p)

/-- A turn of a machine that waits for a choice. -/
def awaitChoice (h : Host ω β) (p : Program) (x : Session ω β) : Turn ω β :=
  let (reply, output) := h.choose x.state.options x.output
  let y := { x with output, log := .prompt x.state.options :: x.log }
  match reply with
  | .pending => .held y
  | .back (.error t) => y.fail h (.trouble t)
  | .back (.ok index) => y.goOn h (y.state.resumeChoice p index)

/-- Whether a step limit has been reached. -/
def limitReached (limit : Option Int) (x : Session ω β) : Bool :=
  match limit with
  | none => false
  | some m => decide (m ≤ x.state.steps)

/-- A turn of a running machine. -/
def advance (h : Host ω β) (p : Program) (limit : Option Int) (x : Session ω β) : Turn ω β :=
  if x.limitReached limit then .again { x with state := x.state.stop }
  else match x.step h p with
    | (none, y) => .again y
    | (some f, y) => y.fail h f

/-- One turn of a run under a step limit. -/
def turn (h : Host ω β) (p : Program) (limit : Option Int) (x : Session ω β) : Turn ω β :=
  match x.state.phase with
  | .halted _ => .ended x
  | .waitingTimer => x.awaitTimer h p
  | .waitingChoice => x.awaitChoice h p
  | .running => x.advance h p limit

/-- Turns up to the end of the run; `none` if `fuel` turns are not enough. -/
def run (h : Host ω β) (p : Program) (limit : Option Int) : Nat → Session ω β → Option (Turn ω β)
  | 0, _ => none
  | fuel + 1, x =>
    match x.turn h p limit with
    | .again y => run h p limit fuel y
    | result => some result

end Session

/-- What a run that returned reports. -/
structure RunResult where
  ending : Option Ending
  steps : Nat
  pc : Nat
  error : Option Text
  deriving DecidableEq, Repr

/-- The report on a state. -/
def State.result (s : State) : RunResult :=
  { ending := s.phase.ending?, steps := s.steps, pc := s.pc, error := s.error }

end Dialogue.Machine
