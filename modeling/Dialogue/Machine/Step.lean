import Dialogue.Machine.Host
import Dialogue.Machine.Request

/-!
# One step of a machine

A step carries out the statement at `pc` and moves on, to the next statement or to a line marker.
A step that fails has been counted, but the machine stays where it was.

* `Session.fulfil`: does what a statement asks for, and says where to go if not to the next
  statement;
* `Session.step` (`OysterVM.step`): one step, with the fault if it failed.
-/

namespace Dialogue.Machine

open Text

variable {ω β : Type}

namespace Session

/-- Appends a line to the display. -/
def say (h : Host ω β) (x : Session ω β) (line : Text) : Except Trouble Unit × Session ω β :=
  match h.appendLine line x.output with
  | (.ok (), output) => (.ok (), { x with output, log := .line line :: x.log })
  | (.error t, output) => (.error t, { x with output })

/-- Forwards a command to the game. -/
def send (b : Bridge β) (x : Session ω β) (c : GameCommand) :
    Except Trouble Unit × Session ω β :=
  match b.send c x.game with
  | (.ok _, game) => (.ok (), { x with game, log := .sent c :: x.log })
  | (.error t, game) => (.error t, { x with game })

/-- Asks the game whether a person has an item, and reads the marker that its answer leads to. -/
def check (p : Program) (b : Bridge β) (x : Session ω β) (s : Statement) (person item : Text) :
    Except Fault (Option Nat) × Session ω β :=
  match b.checkHas person item x.game with
  | (.error t, game) => (.error (.trouble t), { x with game })
  | (.ok passed, game) =>
    match argument x.state.vars s (if passed then 2 else 3) with
    | .error e => (.error (.number e), { x with game })
    | .ok marker => (.ok (p.labels.get? marker), { x with game })

/-- Does what the statement `s` asks for. The result is the number of the statement to go to, or
`none` for the next one. -/
def fulfil (h : Host ω β) (p : Program) (x : Session ω β) (s : Statement) :
    Request → Except Fault (Option Nat) × Session ω β
  | .nothing => (.ok none, x)
  | .say line =>
    match x.say h line with
    | (.ok (), y) => (.ok none, y)
    | (.error t, y) => (.error (.trouble t), y)
  | .jump marker => (.ok (p.labels.get? marker), x)
  | .assign name type value =>
    if name.isEmpty then (.ok none, x)
    else
      let vars := x.state.vars.put name { name, type, value, line := s.line }
      (.ok none, { x with state := { x.state with vars } })
  | .wait ms =>
    (.ok none, { x with state := { x.state with waitMs := ms, phase := .waitingTimer } })
  | .offer offers =>
    if offers.isEmpty then (.ok none, x)
    else
      (.ok none,
        { x with state := { x.state with offers := some offers, phase := .waitingChoice } })
  | .check person item =>
    match h.bridge with
    | none => (.ok none, x)
    | some b => x.check p b s person item
  | .send c =>
    match h.bridge with
    | none => (.ok none, x)
    | some b =>
      match x.send b c with
      | (.ok (), y) => (.ok none, y)
      | (.error t, y) => (.error (.trouble t), y)

/-- Carries out a statement. -/
def perform (h : Host ω β) (p : Program) (x : Session ω β) (s : Statement) :
    Except Fault (Option Nat) × Session ω β :=
  match request p h.bridge.isSome x.state.vars s with
  | .error e => (.error (.number e), x)
  | .ok r => x.fulfil h p s r

/-- The session with one more step counted. -/
def count (x : Session ω β) : Session ω β :=
  { x with state := { x.state with steps := x.state.steps + 1 } }

/-- The session at another statement. -/
def goto (p : Program) (x : Session ω β) (pc : Nat) : Session ω β :=
  { x with state := State.settle p { x.state with pc } }

/-- Carries out the statement at `pc` and moves on; a machine that is not running stays as it is. -/
def step (h : Host ω β) (p : Program) (x : Session ω β) : Option Fault × Session ω β :=
  if x.state.phase = .running then
    match p.script[x.state.pc]? with
    | none => (none, x)
    | some s =>
      match x.count.perform h p s with
      | (.error f, y) => (some f, y)
      | (.ok target, y) => (none, y.goto p (target.getD (y.state.pc + 1)))
  else (none, x)

end Session

end Dialogue.Machine
