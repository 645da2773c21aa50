import Dialogue.Jobs.Record
import Dialogue.Text.Blank
import Dialogue.Text.Lines

/-!
# Histories

A history keeps the records of jobs that have ended. One in memory keeps the latest ones, up to its
capacity. One in a file has a line for each record, appended at the end whatever stands there.

* `History` (`InMemoryHistoryStore`, `JsonlHistoryStore`): both kinds;
* `History.append`: enter a record;
* `History.recent` (`list_recent`): the records, the latest first, cut to a limit.
-/

namespace Dialogue.Jobs

open Text

/-- Records of jobs that have ended. -/
inductive History where
  /-- The records in memory, the latest first. -/
  | memory (capacity : Nat) (records : List Record)
  /-- The content of a file, if it exists. -/
  | file (content : Option Text)

/-- A capacity below zero was asked for. -/
structure NegativeCapacity where
  capacity : Int
  deriving DecidableEq, Repr

/-- The wording of the refusal. -/
def NegativeCapacity.message (_ : NegativeCapacity) : Text := ofString "maxlen must be non-negative"

namespace History

/-- How many records are kept in memory unless another capacity is chosen. -/
def defaultCapacity : Int := 1000

/-- An empty history in memory. -/
def inMemory (capacity : Int) : Except NegativeCapacity History :=
  if capacity < 0 then .error ⟨capacity⟩ else .ok (.memory capacity.toNat [])

/-- Enters a record. -/
def append (r : Record) : History → History
  | memory capacity records => memory capacity ((r :: records).take capacity)
  | file content => file (some (content.getD [] ++ r.line))

/-- The records of some lines, in order; blank lines are skipped. -/
def readLines : List Text → Except RecordError (List Record)
  | [] => .ok []
  | line :: rest =>
    if (trim line).isEmpty then readLines rest
    else do
      let r ← Record.read line
      let rs ← readLines rest
      return r :: rs

/-- All records, the latest first. -/
def records : History → Except RecordError (List Record)
  | memory _ records => .ok records
  | file none => .ok []
  | file (some content) => (readLines (splitAtFeeds (unifyBreaks content))).map List.reverse

/-- The latest records, cut to a limit. -/
def recent (limit : Int) (h : History) : Except RecordError (List Record) :=
  h.records.map (takeLimit limit)

/-- The content of the file, if the history is in one that exists. -/
def fileContent : History → Option Text
  | memory .. => none
  | file content => content

end History

end Dialogue.Jobs
