import Dialogue.Jobs.History
import Dialogue.Machine.Run

/-!
# The scheduler

Submitted scripts wait in a queue. A worker takes them one after the other and executes each on a
machine of its own, with its own variables and its own display. A worker that is stopped cancels the
job it executes; one that fails with an error it cannot report stays dead until it is stopped or
replaced.

Here a worker has gone as soon as it is stopped, which is what stopping comes to if no worker is
started before it is over. `Crew` takes it apart.

* `Setup`: what a scheduler is set up with;
* `Scheduler` (`ScriptRuntime`): its state;
* `Scheduler.submit` (`submit_script`), `start`, `stop`, `job` (`get_job`): what a user does;
* `Scheduler.tick?` (`_worker_loop`, `_execute_job`): the next thing that happens by itself, and
  `Scheduler.settle`: all of them.
-/

namespace Dialogue.Jobs

open Text Script Machine Time

variable {ω β : Type}

/-- What a scheduler is set up with. -/
structure Setup (ω β : Type) where
  host : Host ω β
  catalog : Catalog
  marks : List Text := defaultMarks
  waitScale : Float := 1.0
  /-- The step limit of every job. -/
  limit : Option Int := none
  /-- How many jobs may wait; any number if this is not positive. -/
  capacity : Int := 100
  /-- The time at each reading of the clock. -/
  clock : Nat → Timestamp
  /-- The identifier of each submission, counted from zero. -/
  newId : Nat → Text

/-- A job with its display. -/
structure Slot (ω : Type) where
  job : Job
  /-- What is to be executed, until it is begun. -/
  script : Option (List Statement)
  output : ω
  /-- What has happened on the display, the latest first. -/
  log : List Event := []

/-- A job that is being executed. -/
structure Execution (ω β : Type) where
  /-- The number of its slot. -/
  slot : Nat
  program : Program
  session : Session ω β

/-- What the worker is about. -/
inductive Worker (ω β : Type) where
  | absent
  | idle
  | busy (e : Execution ω β)
  /-- The job's prompt or timer does not come back. -/
  | held (e : Execution ω β)
  /-- The job failed with an error that could not be reported. -/
  | dead (t : Trouble)

/-- The state of a scheduler. -/
structure Scheduler (ω β : Type) where
  /-- The jobs in order of submission. -/
  slots : List (Slot ω) := []
  /-- The slots of the jobs that wait, the next one first. -/
  queue : List Nat := []
  worker : Worker ω β := .absent
  history : History
  game : β
  /-- How often the clock has been read. -/
  readings : Nat := 0

/-- Too many jobs wait. -/
structure QueueFull where
  capacity : Int
  deriving DecidableEq, Repr

/-- An identifier that no job has. -/
structure UnknownJob where
  id : Text
  deriving DecidableEq, Repr

/-- The wording of the refusal. -/
def UnknownJob.message (e : UnknownJob) : Text := ofString "Unknown script job id: " ++ e.id

namespace Scheduler

/-- The jobs in order of submission. -/
def jobs (s : Scheduler ω β) : List Job := s.slots.map Slot.job

/-- The job of an identifier. -/
def job (s : Scheduler ω β) (id : Text) : Except UnknownJob Job :=
  match s.jobs.find? fun j => j.id = id with
  | some j => .ok j
  | none => .error ⟨id⟩

/-- The name of a job that is submitted without one. -/
def defaultName (s : Scheduler ω β) : Text :=
  ofString "script-" ++ decimal (s.slots.length + 1 : Nat)

/-- Whether no further job may wait. -/
def isFull (c : Setup ω β) (s : Scheduler ω β) : Bool :=
  decide (0 < c.capacity) && decide (c.capacity ≤ s.queue.length)

/-- Reads the clock. -/
def readClock (c : Setup ω β) (s : Scheduler ω β) : Timestamp × Scheduler ω β :=
  (c.clock s.readings, { s with readings := s.readings + 1 })

/-- Submits a script. It is read at once. A job that may not wait is registered all the same. -/
def submit (c : Setup ω β) (s : Scheduler ω β) (source : Text) (output : ω) (name : Option Text) :
    Except QueueFull Text × Scheduler ω β :=
  let script := parse c.marks source
  let id := c.newId s.slots.length
  let title := name.getD []
  let (submitted, s) := s.readClock c
  let job : Job := {
    id, submitted
    name := if title.isEmpty then s.defaultName else title
    statementCount := script.length }
  let registered :=
    { s with slots := s.slots ++ [{ job, script := some script, output }] }
  if s.isFull c then (.error ⟨c.capacity⟩, registered)
  else (.ok id, { registered with queue := s.queue ++ [s.slots.length] })

/-- Changes the slot of a number. -/
def onSlot (s : Scheduler ω β) (n : Nat) (f : Slot ω → Slot ω) : Scheduler ω β :=
  { s with slots := s.slots.modify n f }

/-- Changes the job of a slot. -/
def onJob (s : Scheduler ω β) (n : Nat) (f : Job → Job) : Scheduler ω β :=
  s.onSlot n fun slot => { slot with job := f slot.job }

/-- Keeps what an execution has left behind so far. -/
def keep (s : Scheduler ω β) (e : Execution ω β) : Scheduler ω β :=
  { s.onSlot e.slot fun slot => { slot with output := e.session.output, log := e.session.log } with
    game := e.session.game }

/-- Ends the job of an execution and enters it in the history. -/
def conclude (c : Setup ω β) (s : Scheduler ω β) (e : Execution ω β) (ending : Ending)
    (error : Option Text) : Scheduler ω β :=
  let (now, s) := (s.keep e).readClock c
  let s := s.onJob e.slot fun j =>
    { j with status := .ended ending, steps := e.session.state.steps, error, finished := some now }
  match s.slots[e.slot]? with
  | some slot => { s with history := s.history.append slot.job.record }
  | none => s

/-- Puts a worker to work unless there is a live one. -/
def start (s : Scheduler ω β) : Scheduler ω β :=
  match s.worker with
  | .absent | .dead _ => { s with worker := .idle }
  | _ => s

/-- Dismisses the worker, and nothing happens until it has gone. The job it executes is cancelled; if it
is dead, its error comes out. -/
def stop (c : Setup ω β) (s : Scheduler ω β) : Except Trouble Unit × Scheduler ω β :=
  match s.worker with
  | .absent | .idle => (.ok (), { s with worker := .absent })
  | .busy e | .held e => (.ok (), { s.conclude c e .cancelled none with worker := .absent })
  | .dead t => (.error t, { s with worker := .absent })

/-- The execution of a script on a display, at its beginning. -/
def execution (c : Setup ω β) (s : Scheduler ω β) (n : Nat) (script : List Statement) (output : ω) :
    Execution ω β :=
  let program : Program := { script, catalog := c.catalog, waitScale := c.waitScale }
  { slot := n, program, session := { state := .initial program, output, game := s.game } }

/-- Takes the job of a slot out of the queue and begins it. -/
def begin (c : Setup ω β) (s : Scheduler ω β) (n : Nat) (rest : List Nat) : Scheduler ω β :=
  let s := { s with queue := rest }
  match s.slots[n]? with
  | none => s
  | some slot =>
    match slot.script with
    | none => s
    | some script =>
      let e := s.execution c n script slot.output
      let s := s.onSlot n fun slot =>
        { slot with job := { slot.job with status := .running }, script := none }
      { s with worker := .busy e }

/-- Follows a turn of the job that is executed. -/
def follow (c : Setup ω β) (s : Scheduler ω β) (e : Execution ω β) :
    Turn ω β → Scheduler ω β
  | .again x => { s with worker := .busy { e with session := x } }
  | .ended x =>
    let ending := x.state.phase.ending?.getD .completed
    { s.conclude c { e with session := x } ending x.state.error with worker := .idle }
  | .held x =>
    let e := { e with session := x }
    { s.keep e with worker := .held e }
  | .escaped t x => { s.keep { e with session := x } with worker := .dead t }

/-- The next thing that happens by itself: the worker takes a job, or makes a turn of one. -/
def tick? (c : Setup ω β) (s : Scheduler ω β) : Option (Scheduler ω β) :=
  match s.worker, s.queue with
  | .idle, n :: rest => some (s.begin c n rest)
  | .busy e, _ => some (s.follow c e (e.session.turn c.host e.program c.limit))
  | _, _ => none

/-- All that happens by itself; `none` if `fuel` things are not enough. -/
def settle (c : Setup ω β) : Nat → Scheduler ω β → Option (Scheduler ω β)
  | 0, _ => none
  | fuel + 1, s =>
    match s.tick? c with
    | none => some s
    | some t => settle c fuel t

/-- The job that the worker executes, if any. -/
def execution? (s : Scheduler ω β) : Option (Execution ω β) :=
  match s.worker with
  | .busy e | .held e => some e
  | _ => none

/-- Changes the display of the job that is executed. -/
def onDisplay (s : Scheduler ω β) (f : ω → ω) : Scheduler ω β :=
  match s.worker with
  | .busy e =>
    { s with worker := .busy { e with session := { e.session with output := f e.session.output } } }
  | _ => s

/-- Whether every job that was put in the queue is done with. -/
def isDone (s : Scheduler ω β) : Bool :=
  s.queue.isEmpty && match s.worker with
    | .busy _ | .held _ => false
    | _ => true

end Scheduler

end Dialogue.Jobs
