import Dialogue.Jobs.Scheduler

/-!
# Listing jobs

A listing shows the jobs of the scheduler, those submitted last first, and after them the records of
its history that are not among them.

* `mergeRecords`: records without those whose identifier came before, up to a number;
* `Scheduler.recent` (`list_recent_jobs`): the listing, cut to a limit.
-/

namespace Dialogue.Jobs

open Text Time

variable {ω β : Type}

/-- The whole number that a value is, counting the truth values as one and zero. -/
def wholeOf? : Json → Option Int
  | .bool b => some (if b then 1 else 0)
  | .int i => some i
  | .real f => Decimal.whole? f
  | _ => none

/-- Whether two identifiers are the same. Numbers are compared by their value, whatever they are
written as, and what is no number is the same as itself. -/
def sameId : Json → Json → Bool
  | .null, .null => true
  | .text a, .text b => a = b
  | .brokenText a, .brokenText b => a = b
  | a, b =>
    match wholeOf? a, wholeOf? b, a, b with
    | some x, some y, _, _ => x = y
    | none, none, .real x, .real y => x == y || (x.isNaN && y.isNaN)
    | _, _, _, _ => false

/-- Whether an identifier can be compared with others. -/
def canIdentify : Json → Bool
  | .list _ | .object _ => false
  | _ => true

/-- The records in order, up to `room`, without those whose identifier is in `seen` or came
before. -/
def mergeRecords (room : Nat) (seen : List Json) : List Record → Except RecordError (List Record)
  | [] => .ok []
  | r :: rest =>
    if !canIdentify r.id then .error (.badId r.id)
    else if seen.any (sameId r.id) then mergeRecords room seen rest
    else if room ≤ 1 then .ok [r]
    else (mergeRecords (room - 1) (r.id :: seen) rest).map (r :: ·)

/-- Whether a job was submitted no earlier than another. -/
def Job.noEarlier (a b : Job) : Bool := decide (b.submitted.instant ≤ a.submitted.instant)

namespace Scheduler

/-- The jobs, those submitted last first; of those submitted at one time the earlier first. -/
def newestFirst (s : Scheduler ω β) : List Job := s.jobs.mergeSort Job.noEarlier

/-- The listing. The history is asked only when the jobs do not fill it. -/
def recent (limit : Int) (s : Scheduler ω β) : Except RecordError (List Record) :=
  let live := s.newestFirst.map Job.record
  if limit ≤ live.length then .ok (takeLimit limit live)
  else do
    let stored ← s.history.recent limit
    mergeRecords limit.toNat [] (live ++ stored)

end Scheduler

end Dialogue.Jobs
