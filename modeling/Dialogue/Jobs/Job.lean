import Dialogue.Machine.State
import Dialogue.Time.Timestamp

/-!
# Jobs

A job is a script that was submitted to be run: it waits in a queue, is executed, and ends.

* `JobStatus` (`ScriptJobStatus`): how a job stands, with its name;
* `Job` (`ScriptJob`): what is kept of a job.
-/

namespace Dialogue.Jobs

open Text Machine Time

/-- How a job stands. -/
inductive JobStatus where
  | queued
  | running
  | ended (ending : Ending)
  deriving DecidableEq, Repr

namespace JobStatus

/-- The status's name. -/
def name : JobStatus → Text
  | queued => ofString "queued"
  | running => ofString "running"
  | ended ending => ending.name

/-- Every status. -/
def all : List JobStatus :=
  [queued, running, ended .completed, ended .stopped, ended .cancelled, ended .failed]

/-- The status of a name. -/
def ofName? (name : Text) : Option JobStatus := all.find? fun s => s.name = name

theorem ofName?_name (s : JobStatus) : ofName? s.name = some s := by
  rcases s with _ | _ | _ | _ | _ | _ <;> decide

end JobStatus

/-- A submitted script. -/
structure Job where
  id : Text
  name : Text
  submitted : Timestamp
  status : JobStatus := .queued
  statementCount : Nat := 0
  /-- How many statements were begun; counted when the job ends. -/
  steps : Nat := 0
  error : Option Text := none
  finished : Option Timestamp := none
  deriving DecidableEq, Repr

end Dialogue.Jobs
