import Dialogue.Catalog.Standard
import Dialogue.CommandLine.Reply
import Dialogue.CommandLine.Summary
import Dialogue.Jobs.Scheduler

/-!
# Running a script in the terminal

A run is a scheduler with one job, which is begun, goes on by itself, and is finished. Between its
beginning and its end nothing but the scheduler acts, so that what is shown may be shown at once.

* `Desk.script` (`_read_script`): the text of a script;
* `Play` (`run`): a run under way;
* `Play.begin`, `Play.finish`: its beginning and its end;
* `Play.step?`, `Play.settle`: its next step, and all of them.
-/

namespace Dialogue.CommandLine

open Text Console Machine Jobs

/-- The text of the script under a path. -/
def Desk.script (d : Desk) (path : Text) : Except Failure Text :=
  match d.files.content? path with
  | .error e => .error (.broken (.file e))
  | .ok none => .error (.refused (.scriptMissing (Path.normal path)))
  | .ok (some content) => .ok (unifyBreaks content)

/-- The path of the history: the one that is given, else the one of the settings; an empty one is
none. -/
def Office.historyPath? (o : Office) (given : Text) : Option Text :=
  (if given.isEmpty then o.settings.historyPath else some given).filter fun p => !p.isEmpty

/-- The step limit of a run: the one that is given unless it is zero, else that of the settings. -/
def Office.limit? (o : Office) (given : Option Int) : Option Int :=
  match given with
  | some n => if n = 0 then o.settings.stepLimit else some n
  | none => o.settings.stepLimit

/-- A run under way. -/
structure Play where
  setup : Setup Terminal Echo
  scheduler : Scheduler Terminal Echo
  /-- The file of the history, if it has one. -/
  historyPath : Option Text
  /-- What the run has found on the desk, with room made for the history. -/
  desk : Desk

/-- The setup of a run. -/
def Office.setup (o : Office) (d : Desk) (r : RunOptions) : Setup Terminal Echo where
  host := .terminal o.numbered (if r.echoGame then some .echo else none)
  catalog := .standard
  marks := o.settings.textMarks
  waitScale := if r.noWait then 0.0 else o.settings.waitScale
  limit := o.limit? r.limit
  clock := fun n => o.clock (d.readings + n)
  newId := fun n => o.newId (d.runs + n)

/-- The desk with room made for a history, if it has a path; the reply, if there can be none. -/
def Desk.withHistory (d : Desk) : Option Text → Except Reply Desk
  | none => .ok d
  | some path =>
    match d.files.makeRoomFor path with
    | (files, .ok ()) => .ok { d with files }
    | (files, .error e) => .error ({ d with files }.reply [] (.failed (.broken (.file e))))

/-- The history under a path, if it has one. -/
def Desk.history (d : Desk) : Option Text → History
  | none => .memory History.defaultCapacity.toNat []
  | some path =>
    match d.files.content? path with
    | .ok content => .file content
    | .error _ => .file none

namespace Play

/-- Begins the run of a script on a terminal; the reply, if it cannot be begun. -/
def begin (o : Office) (d : Desk) (path : Text) (r : RunOptions) (terminal : Terminal) :
    Except Reply Play := do
  let source ← (d.script path).mapError fun f => d.reply [] (.failed f)
  let historyPath := o.historyPath? r.historyFile
  let d ← d.withHistory historyPath
  let setup := o.setup d r
  let idle : Scheduler Terminal Echo := { history := d.history historyPath, game := {} }
  let (_, scheduler) := idle.start.submit setup source terminal (some (Path.name path))
  return { setup, scheduler, historyPath, desk := d }

/-- The desk after the run, but for the history. -/
def counted (p : Play) : Desk :=
  { p.desk with
    readings := p.desk.readings + p.scheduler.readings
    runs := p.desk.runs + p.scheduler.slots.length }

/-- The desk after the run, with the history written. -/
def left (p : Play) : Except FileError Desk :=
  match p.historyPath, p.scheduler.history.fileContent with
  | some path, some content =>
    (p.desk.files.write path content).map fun files => { p.counted with files }
  | _, _ => .ok p.counted

/-- What has been shown. -/
def shown (p : Play) : List Shown := p.scheduler.slots.flatMap fun slot => slot.output.output

/-- Finishes the run: the jobs are summed up, and a failed one is a bad finding. -/
def finish (p : Play) : Reply :=
  let (dismissed, scheduler) := p.scheduler.stop p.setup
  let p := { p with scheduler }
  let broken (b : Breakdown) : Reply :=
    { shown := p.shown, outcome := .failed (.broken b), desk := p.counted }
  match dismissed, p.left with
  | .error t, _ => broken (.trouble t)
  | _, .error e => broken (.file e)
  | .ok (), .ok desk =>
    let failed := scheduler.jobs.any fun j => j.status = .ended .failed
    let summed := desk.reply (scheduler.jobs.map Job.summary) (if failed then .bad else .done)
    { summed with shown := p.shown ++ summed.shown }

/-- The terminal as it is now. -/
def terminal? (p : Play) : Option Terminal :=
  match p.scheduler.execution? with
  | some e => some e.session.output
  | none => p.scheduler.slots.head?.map Slot.output

/-- Changes the terminal. -/
def onTerminal (p : Play) (f : Terminal → Terminal) : Play :=
  let s := p.scheduler.onDisplay f
  { p with scheduler := { s with
    slots := s.slots.map fun slot => { slot with output := f slot.output } } }

/-- Whether a prompt waits for something to be typed. -/
def isWaiting (p : Play) : Bool :=
  match p.scheduler.worker with
  | .held _ => true
  | _ => false

/-- The next step of the run at a time, if there is one. -/
def step? (p : Play) (now : Time.Timestamp) : Option Play :=
  (p.scheduler.tick? { p.setup with clock := fun _ => now }).map fun scheduler =>
    { p with scheduler }

/-- The run as far as it goes by itself; `none` if `fuel` steps are not enough. -/
def settle (fuel : Nat) (p : Play) : Option Play :=
  (p.scheduler.settle p.setup fuel).map fun scheduler => { p with scheduler }

end Play

end Dialogue.CommandLine
