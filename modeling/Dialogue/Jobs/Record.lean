import Dialogue.Jobs.Job
import Dialogue.Json.Literal
import Dialogue.Json.Reader
import Dialogue.Json.Writer
import Dialogue.Time.Reading

/-!
# Records of jobs

What a history keeps of a job is a record. In a file it is an object on a line of its own. A record
that is read back has its times and its status checked; its other values are kept as they are.

* `Record`, `Job.record`: the record of a job;
* `Record.line` (`JsonlHistoryStore.append`): the line of a record;
* `Record.read` (`JsonlHistoryStore.list_recent`): the record of a line, or the first thing that is
  wrong with it.
-/

namespace Dialogue.Jobs

open Text Time

/-- What is kept of a job. -/
structure Record where
  id : Json
  name : Json
  submitted : Timestamp
  status : JobStatus
  statementCount : Json := .int 0
  steps : Json := .int 0
  error : Json := .null
  finished : Option Timestamp := none

/-- The record of a job. -/
def Job.record (j : Job) : Record where
  id := .text j.id
  name := .text j.name
  submitted := j.submitted
  status := j.status
  statementCount := .int j.statementCount
  steps := .int j.steps
  error := (j.error.map Json.text).getD .null
  finished := j.finished

/-- What is wrong with a record that is read. -/
inductive RecordError where
  | json (e : JsonError)
  | notObject (v : Json)
  | missing (key : Text)
  | timeNotText
  | time (e : TimeError)
  | status (v : Json)
  /-- An identifier that others cannot be compared with. -/
  | badId (v : Json)

namespace RecordError

/-- The kind of error that a bad record is reported as. -/
def kind : RecordError → Text
  | json (.malformed) => ofString "JSONDecodeError"
  | json (.tooLong _) => ofString "ValueError"
  | json (.tooDeep _) => ofString "RecursionError"
  | notObject _ => ofString "AttributeError"
  | missing _ => ofString "KeyError"
  | timeNotText | badId _ => ofString "TypeError"
  | time _ | status _ => ofString "ValueError"

/-- The wording; text that is not JSON has none. -/
def message? : RecordError → Option Text
  | json (.malformed) => none
  | json (.tooLong e) => some e.message
  | json (.tooDeep c) => some c.tooDeepMessage
  | notObject v => some (ofString "'" ++ v.typeName ++ ofString "' object has no attribute 'get'")
  | missing key => some key
  | timeNotText => some (ofString "fromisoformat: argument must be str")
  | time e => some e.message
  | status v => some (v.literal ++ ofString " is not a valid ScriptJobStatus")
  | badId v => some (ofString "unhashable type: '" ++ v.typeName ++ ofString "'")

end RecordError

namespace Record

/-- The record as an object. -/
def toJson (r : Record) : Json :=
  let time (t : Timestamp) : Json := .text t.toText
  .ofFields [
    (ofString "id", r.id), (ofString "name", r.name), (ofString "submitted_at", time r.submitted),
    (ofString "status", .text r.status.name), (ofString "statement_count", r.statementCount),
    (ofString "steps", r.steps), (ofString "error", r.error),
    (ofString "finished_at", (r.finished.map time).getD .null)]

/-- The line of a record, with its line feed. -/
def line (r : Record) : Text := r.toJson.write ++ ['\n']

/-- The member of an object that a record cannot do without. -/
def need (v : Json) (key : String) : Except RecordError Json :=
  match v.member? (ofString key) with
  | some m => .ok m
  | none => .error (.missing (ofString key))

/-- The time that a value writes. -/
def timeOf (v : Json) : Except RecordError Timestamp :=
  match v.codes? with
  | some codes => (Timestamp.read codes).mapError .time
  | none => .error .timeNotText

/-- The status that a value names. -/
def statusOf (v : Json) : Except RecordError JobStatus :=
  match v with
  | .text t =>
    match JobStatus.ofName? t with
    | some s => .ok s
    | none => .error (.status v)
  | _ => .error (.status v)

/-- Whether a value counts as missing: null, false, zero, or empty. -/
def isVoid : Json → Bool
  | .null => true
  | .bool b => !b
  | .int i => i = 0
  | .real f => f == 0
  | .text t => t.isEmpty
  | .brokenText codes => codes.isEmpty
  | .list items => items.isEmpty
  | .object members => members.isEmpty

/-- The record of an object. -/
def ofJson (v : Json) : Except RecordError Record := do
  if !v.isObject then throw (.notObject v)
  let id ← need v "id"
  let name ← need v "name"
  let submitted ← need v "submitted_at" >>= timeOf
  let status ← need v "status" >>= statusOf
  let ended := (v.member? (ofString "finished_at")).getD .null
  let finished ← if isVoid ended then pure none else (timeOf ended).map some
  return {
    id, name, submitted, status, finished
    statementCount := (v.member? (ofString "statement_count")).getD (.int 0)
    steps := (v.member? (ofString "steps")).getD (.int 0)
    error := (v.member? (ofString "error")).getD .null }

/-- The record of a line. -/
def read (line : Text) : Except RecordError Record := do
  let v ← (Json.read line).mapError .json
  ofJson v

end Record

end Dialogue.Jobs
