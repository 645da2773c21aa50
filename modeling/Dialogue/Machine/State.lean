import Dialogue.Catalog.Basic
import Dialogue.Script.Verb

/-!
# The state of a machine

A machine carries out one script. Between two statements its state is the place it has reached, its
variables, and what it waits for.

* `Program`: a script with its labels, the catalog, and the scale of waits;
* `Phase` (`VMState`, `ScriptRunStatus`): running, waiting, or halted with an ending;
* `State` (`OysterVM`): the whole state; `State.initial` is the one every run begins with;
* `Fault` (`VMStateError` among others): why an operation fails;
* `State.resumeTimer` (`resume_timer`), `State.resumeChoice` (`resume_choice`), `State.stop`
  (`stop`): what ends a wait or a run.
-/

namespace Dialogue.Machine

open Text

/-- What a machine is given to carry out. -/
structure Program where
  script : List Statement
  catalog : Catalog
  /-- The factor by which waits are stretched. -/
  waitScale : Float := 1.0
  labels : Table Nat := Script.labels script
  labels_eq : labels = Script.labels script := by rfl

/-- How a run ends. -/
inductive Ending where
  | completed
  | stopped
  | cancelled
  | failed
  deriving DecidableEq, Repr

/-- The ending's name. -/
def Ending.name : Ending → Text
  | completed => ofString "completed"
  | stopped => ofString "stopped"
  | cancelled => ofString "cancelled"
  | failed => ofString "failed"

/-- What a machine is about. -/
inductive Phase where
  | running
  | waitingTimer
  | waitingChoice
  | halted (ending : Ending)
  deriving DecidableEq, Repr

/-- The phase's name, all endings alike. -/
def Phase.name : Phase → Text
  | running => ofString "running"
  | waitingTimer => ofString "waiting_timer"
  | waitingChoice => ofString "waiting_choice"
  | halted _ => ofString "halted"

/-- The ending of a machine that has halted. -/
def Phase.ending? : Phase → Option Ending
  | halted e => some e
  | _ => none

/-- The name of how the run stands: its ending, or that it goes on. -/
def Phase.statusName (p : Phase) : Text :=
  match p.ending? with
  | some e => e.name
  | none => ofString "running"

/-- The type of a value. -/
def valueType : Scalar → ParamType
  | .int _ => .int
  | .bool _ => .bool
  | .text _ => .string

/-- A variable with the type that it was last set as, and the line that set it. -/
structure Variable where
  name : Text
  type : ParamType
  value : Scalar
  line : Int
  deriving DecidableEq, Repr

/-- An option that is offered, and the marker to go to when it is chosen. -/
structure Offer where
  text : Text
  marker : Option Text
  deriving DecidableEq, Repr

/-- The state of a machine. -/
structure State where
  vars : Table Variable := []
  /-- The number of the next statement. -/
  pc : Nat := 0
  /-- How many statements have been begun. -/
  steps : Nat := 0
  phase : Phase := .running
  /-- What made a run fail. -/
  error : Option Text := none
  /-- The milliseconds of the wait that has not ended. -/
  waitMs : Int := 0
  /-- The options of the last offer that has not been answered. -/
  offers : Option (List Offer) := none
  deriving DecidableEq, Repr

/-- A call to the host failed: the kind of error and its text. -/
structure Trouble where
  kind : Text
  message : Text
  deriving DecidableEq, Repr

/-- Why an operation of a machine fails. -/
inductive Fault where
  | trouble (t : Trouble)
  | number (e : TooManyDigits)
  /-- A wait of more seconds than a double can hold. -/
  | waitTooLong
  | noTimer (phase : Phase)
  | noChoice (phase : Phase)
  /-- The index, as it is written, is that of no option. -/
  | outOfRange (index : Text) (count : Nat)
  deriving DecidableEq, Repr

namespace Fault

/-- The kind of error that a fault is reported as. -/
def kind : Fault → Text
  | trouble t => t.kind
  | number _ => ofString "ValueError"
  | waitTooLong => ofString "OverflowError"
  | noTimer _ | noChoice _ | outOfRange .. => ofString "VMStateError"

/-- The wording of a fault. -/
def message : Fault → Text
  | trouble t => t.message
  | number e => e.message
  | waitTooLong => ofString "integer division result too large for a float"
  | noTimer phase => ofString "Cannot resume a timer while " ++ phase.name
  | noChoice phase => ofString "Cannot resume a choice while " ++ phase.name
  | outOfRange index count =>
    ofString "Choice index " ++ index ++ ofString " out of range for " ++ decimal count ++
      ofString " options"

/-- Kind and wording. -/
def report (f : Fault) : Text := f.kind ++ ofString ": " ++ f.message

/-- The fault of an index that none of `count` options has. An index that is too long to be written
is refused for that. -/
def ofIndex (index : Int) (count : Nat) : Fault :=
  match limitedDecimal index with
  | .ok t => .outOfRange t count
  | .error e => .number e

end Fault

namespace State

/-- The state with a run ended. -/
def finish (s : State) (ending : Ending) : State := { s with phase := .halted ending }

/-- A machine that runs past the last statement has completed. -/
def settle (p : Program) (s : State) : State :=
  if s.phase = .running ∧ p.script.length ≤ s.pc then s.finish .completed else s

/-- The state in which a program begins. -/
def initial (p : Program) : State := settle p {}

/-- The options that wait for an answer. -/
def options (s : State) : List Text := (s.offers.getD []).map Offer.text

/-- Ends a wait for a timer. -/
def resumeTimer (p : Program) (s : State) : Except Fault State :=
  if s.phase = .waitingTimer then .ok (settle p { s with waitMs := 0, phase := .running })
  else .error (.noTimer s.phase)

/-- The place a chosen option leads to. -/
def target (p : Program) (s : State) (offer : Offer) : Nat :=
  match offer.marker with
  | none => s.pc
  | some m => (p.labels.get? m).getD s.pc

/-- Ends a wait for a choice: with an option, or with the whole run when there is none. -/
def resumeChoice (p : Program) (s : State) (index : Option Int) : Except Fault State :=
  match s.phase, s.offers with
  | .waitingChoice, some offers =>
    match index with
    | none => .ok ({ s with offers := none }.finish .cancelled)
    | some i =>
      if i < 0 then .error (.ofIndex i offers.length)
      else match offers[i.toNat]? with
        | none => .error (.ofIndex i offers.length)
        | some offer =>
          .ok (settle p { s with offers := none, pc := s.target p offer, phase := .running })
  | phase, _ => .error (.noChoice phase)

/-- Stops a run that has not ended. -/
def stop (s : State) : State :=
  match s.phase with
  | .halted _ => s
  | _ => s.finish .stopped

end State

end Dialogue.Machine
