import Dialogue.Jobs.History
import Dialogue.Proofs.Jobs.Ledger
import Dialogue.Proofs.Json.RoundTrip
import Dialogue.Proofs.Time.RoundTrip

/-!
# Both kinds of history agree

A history in a file writes a line for each record at the end, and reads the lines from the last one
to the first. A history in memory puts each record in front and forgets the oldest ones. As long as
nothing is forgotten both show the same records, and these are the records of the jobs as they were.

* `Job.IsStorable`: what the numbers and the times of a job must be like to be read back;
* `Record.read_write`: the record of such a job is read back from its line;
* `History.records_file_enter`: what a history in a file shows; `History.memory_enter`: what one in
  memory keeps;
* `Job.record_injective`: a record tells everything of its job;
* **`histories_agree`**.
-/

namespace Dialogue.Jobs

open Text Time Json

variable {j : Job} {js : List Job} {rs : List Record} {lines : List Text}

/-! ## Records -/

/-- The job's numbers have no more digits than are read, and its times are read back. -/
structure Job.IsStorable (j : Job) : Prop where
  statementCount : (Nat.toDigits 10 j.statementCount).length ≤ maxDigits
  steps : (Nat.toDigits 10 j.steps).length ≤ maxDigits
  submitted : j.submitted.IsReadable
  finished : ∀ t, j.finished = some t → t.IsReadable

/-- **A record tells everything of its job.** -/
theorem Job.record_injective : Function.Injective Job.record := by
  rintro ⟨id, name, submitted, status, count, steps, error, finished⟩
    ⟨id', name', submitted', status', count', steps', error', finished'⟩ h
  obtain ⟨hid, hname, rfl, rfl, hcount, hsteps, herror, rfl⟩ := Record.mk.inj h
  obtain rfl := Json.text.inj hid
  obtain rfl := Json.text.inj hname
  obtain rfl := Int.ofNat.inj (Json.int.inj hcount)
  obtain rfl := Int.ofNat.inj (Json.int.inj hsteps)
  have herror : error = error' := by
    cases error <;> cases error' <;> simp_all
  rw [herror]

namespace Record

/-- The record of a job, field by field. -/
def fields (j : Job) : List (Text × Json) := [
  (ofString "id", .text j.id), (ofString "name", .text j.name),
  (ofString "submitted_at", .text j.submitted.toText), (ofString "status", .text j.status.name),
  (ofString "statement_count", .int j.statementCount), (ofString "steps", .int j.steps),
  (ofString "error", (j.error.map Json.text).getD .null),
  (ofString "finished_at", (j.finished.map fun t => .text t.toText).getD .null)]

theorem toJson_record (j : Job) : j.record.toJson = .ofFields (fields j) := rfl

theorem readsBack_fields (hj : j.IsStorable) : ∀ f ∈ fields j, ReadsBack f.2 := by
  have herror : ReadsBack ((j.error.map Json.text).getD .null) := by
    cases j.error with
    | none => exact readsBack_null
    | some t => exact readsBack_text t
  have hfinished : ReadsBack ((j.finished.map fun t => .text t.toText).getD .null) := by
    cases j.finished with
    | none => exact readsBack_null
    | some t => exact readsBack_text t.toText
  simp only [fields, List.forall_mem_cons, readsBack_text, readsBack_natCast hj.statementCount,
    readsBack_natCast hj.steps, herror, hfinished, true_and]
  exact nofun

theorem names_nodup (j : Job) : ((fields j).map Prod.fst).Nodup := by
  have hnames : (fields j).map Prod.fst = [ofString "id", ofString "name", ofString "submitted_at",
    ofString "status", ofString "statement_count", ofString "steps", ofString "error",
    ofString "finished_at"] := rfl
  rw [hnames]
  decide

theorem timeOf_toText {t : Timestamp} (ht : t.IsReadable) : timeOf (.text t.toText) = .ok t := by
  simp only [timeOf, Json.codes?, Timestamp.read_toText ht]
  rfl

theorem statusOf_name (status : JobStatus) : statusOf (.text status.name) = .ok status := by
  simp only [statusOf, JobStatus.ofName?_name]

/-- A time that is written is not taken for none. -/
theorem isVoid_toText (t : Timestamp) : isVoid (.text t.toText) = false := by
  rw [isVoid, Timestamp.toText_eq]
  simp

theorem ofJson_fields (hj : j.IsStorable) : ofJson (.ofFields (fields j)) = .ok j.record := by
  have hid : need (.ofFields (fields j)) "id" = .ok (.text j.id) := rfl
  have hname : need (.ofFields (fields j)) "name" = .ok (.text j.name) := rfl
  have hsubmitted : need (.ofFields (fields j)) "submitted_at" = .ok (.text j.submitted.toText) :=
    rfl
  have hstatus : need (.ofFields (fields j)) "status" = .ok (.text j.status.name) := rfl
  have hended : (Json.ofFields (fields j)).member? (ofString "finished_at") =
      some ((j.finished.map fun t => .text t.toText).getD .null) := rfl
  have htime (v : Json) : (Except.ok v : Except RecordError Json) >>= timeOf = timeOf v := rfl
  have hnamed (v : Json) : (Except.ok v : Except RecordError Json) >>= statusOf = statusOf v := rfl
  unfold ofJson
  rw [hid, hname, hsubmitted, hstatus, hended, Option.getD_some, htime, hnamed,
    timeOf_toText hj.submitted, statusOf_name]
  cases hfinished : j.finished with
  | none =>
    rw [Job.record, hfinished]
    rfl
  | some t =>
    have hread : timeOf (.text t.toText) = .ok t := timeOf_toText (hj.finished t hfinished)
    rw [Job.record, hfinished]
    simp only [Option.map_some, Option.getD_some, isVoid_toText, hread]
    rfl

/-- **The record of a job is read back.** -/
theorem read_write (hj : j.IsStorable) : read j.record.toJson.write = .ok j.record := by
  have hjson : Json.read (Json.ofFields (fields j)).write = .ok (.ofFields (fields j)) :=
    read_write_ofFields (List.cons_ne_nil _ _) (readsBack_fields hj) (names_nodup j)
  have hrest (v : Json) :
      ((Except.ok v : Except JsonError Json).mapError RecordError.json >>= ofJson) = ofJson v := rfl
  rw [toJson_record, read, hjson, hrest, ofJson_fields hj]

end Record

/-! ## Histories in a file -/

/-- The line of a job's record, without its line feed. -/
def Job.line (j : Job) : Text := j.record.toJson.write

theorem Job.line_eq (j : Job) : j.record.line = j.line ++ ['\n'] := rfl

theorem oneLine_line (hj : j.IsStorable) : OneLine j.line :=
  oneLine_write_ofFields (Record.readsBack_fields hj)

theorem not_mem_line (hj : j.IsStorable) {c : Char} (hc : c.toNat < 0x20) : c ∉ j.line :=
  fun hmem => Nat.not_lt_of_le (oneLine_line hj c hmem) hc

/-- A line that a record stands on is not blank. -/
theorem trim_line_ne_nil (j : Job) : ¬ (trim j.line).isEmpty = true := by
  rw [List.isEmpty_iff]
  intro hempty
  obtain ⟨b, e, hb, he, hsplit⟩ := trim_split j.line
  rw [hempty, List.nil_append] at hsplit
  have hbrace : '\x7b' ∈ j.line := by
    rw [Job.line, Record.toJson_record, write_ofFields]
    exact List.mem_cons_self
  have hblank : isBlank '\x7b' = true := by
    rcases List.mem_append.mp (hsplit ▸ hbrace) with hmem | hmem
    · exact hb _ hmem
    · exact he _ hmem
  cases hblank

theorem unifyBreaks_of_not_mem {t : Text} (h : '\r' ∉ t) : unifyBreaks t = t := by
  induction t with
  | nil => rfl
  | cons c r ih =>
    obtain ⟨hc, hr⟩ := List.ne_and_not_mem_of_not_mem_cons h
    rw [unifyBreaks, if_neg hc.symm, ih hr]

/-- A line that is put before a text is the first of its pieces. -/
theorem splitAtFeeds_append {t : Text} (h : '\n' ∉ t) (rest : Text) :
    splitAtFeeds (t ++ '\n' :: rest) = t :: splitAtFeeds rest := by
  induction t with
  | nil => rfl
  | cons c r ih =>
    obtain ⟨hc, hr⟩ := List.ne_and_not_mem_of_not_mem_cons h
    rw [List.cons_append, splitAtFeeds, if_neg hc.symm, ih hr, consHead]

namespace History

/-- The lines of some jobs, as they stand in a file. -/
theorem file_enter (content : Text) (js : List Job) :
    (file (some content)).enter (js.map Job.record) =
      file (some (content ++ js.flatMap fun j => j.line ++ ['\n'])) := by
  induction js generalizing content with
  | nil => rw [List.flatMap_nil, List.append_nil]; rfl
  | cons j js ih =>
    rw [List.map_cons, enter, List.foldl_cons]
    change (file (some (content ++ j.record.line))).enter (js.map Job.record) = _
    rw [ih, List.flatMap_cons, List.append_assoc, Job.line_eq]

/-- **The lines of some jobs are read back**, one after the other. -/
theorem readLines_lines (hjs : ∀ j ∈ js, j.IsStorable) :
    readLines (splitAtFeeds (unifyBreaks (js.flatMap fun j => j.line ++ ['\n']))) =
      .ok (js.map Job.record) := by
  have hreturn : '\r' ∉ js.flatMap fun j => j.line ++ ['\n'] := by
    intro hmem
    obtain ⟨j, hj, hmem⟩ := List.mem_flatMap.mp hmem
    rcases List.mem_append.mp hmem with hmem | hmem
    · exact not_mem_line (hjs j hj) (by decide) hmem
    · exact absurd (List.mem_singleton.mp hmem) (by decide)
  rw [unifyBreaks_of_not_mem hreturn]
  clear hreturn
  induction js with
  | nil => rfl
  | cons j js ih =>
    obtain ⟨hj, hlater⟩ := List.forall_mem_cons.mp hjs
    have hsplit : splitAtFeeds ((j :: js).flatMap fun j => j.line ++ ['\n']) =
        j.line :: splitAtFeeds (js.flatMap fun j => j.line ++ ['\n']) := by
      rw [List.flatMap_cons, List.append_assoc]
      exact splitAtFeeds_append (not_mem_line hj (by decide)) _
    rw [hsplit, readLines, if_neg (trim_line_ne_nil j), Job.line, Record.read_write hj, ih hlater]
    rfl

/-- **A history in a file shows the records of its jobs**, the latest first. -/
theorem records_file_enter (hjs : ∀ j ∈ js, j.IsStorable) :
    ((file none).enter (js.map Job.record)).records = .ok (js.reverse.map Job.record) := by
  cases js with
  | nil => rfl
  | cons j js =>
    have hfile : (file none).enter ((j :: js).map Job.record) =
        file (some ((j :: js).flatMap fun j => j.line ++ ['\n'])) :=
      file_enter [] (j :: js)
    rw [hfile, records, readLines_lines hjs, List.map_reverse]
    rfl

/-! ## Histories in memory -/

/-- **A history in memory keeps the latest records**, as many as it has room for. -/
theorem memory_enter (capacity : Nat) (kept rs : List Record) (hkept : kept.length ≤ capacity) :
    (memory capacity kept).enter rs = memory capacity ((rs.reverse ++ kept).take capacity) := by
  induction rs generalizing kept with
  | nil => rw [List.reverse_nil, List.nil_append, List.take_of_length_le hkept]; rfl
  | cons r rs ih =>
    have hlength : ((r :: kept).take capacity).length ≤ capacity := List.length_take_le _ _
    rw [enter, List.foldl_cons]
    change (memory capacity ((r :: kept).take capacity)).enter rs = _
    rw [ih _ hlength, List.reverse_cons, List.append_assoc, List.singleton_append,
      List.take_append, List.take_append, List.take_take, Nat.min_eq_left (Nat.sub_le _ _)]

theorem inMemory_of_nonneg {capacity : Int} (h : 0 ≤ capacity) :
    inMemory capacity = .ok (memory capacity.toNat []) :=
  if_neg (Int.not_lt.mpr h)

end History

/-- **Both kinds of history agree.** One in a file shows the records of all jobs that were entered,
the latest first. One in memory shows as many of them as it has room for. Each is cut to the same
limit, so that both show the same as long as there is room. And a record tells everything of its
job. -/
theorem histories_agree (js : List Job) (hjs : ∀ j ∈ js, j.IsStorable) (limit : Int) :
    ((History.file none).enter (js.map Job.record)).recent limit =
        .ok (takeLimit limit (js.reverse.map Job.record)) ∧
      (∀ capacity : Int, 0 ≤ capacity → ∃ h, History.inMemory capacity = .ok h ∧
        (h.enter (js.map Job.record)).recent limit =
          .ok (takeLimit limit ((js.reverse.take capacity.toNat).map Job.record)) ∧
        (js.length ≤ capacity → (h.enter (js.map Job.record)).recent limit =
          ((History.file none).enter (js.map Job.record)).recent limit)) ∧
      Function.Injective Job.record := by
  have hfile : ((History.file none).enter (js.map Job.record)).recent limit =
      .ok (takeLimit limit (js.reverse.map Job.record)) := by
    rw [History.recent, History.records_file_enter hjs]
    rfl
  refine ⟨hfile, fun capacity hcapacity => ⟨_, History.inMemory_of_nonneg hcapacity, ?_⟩,
    Job.record_injective⟩
  have hmemory : ((History.memory capacity.toNat []).enter (js.map Job.record)).recent limit =
      .ok (takeLimit limit ((js.reverse.take capacity.toNat).map Job.record)) := by
    rw [History.memory_enter _ [] _ (Nat.zero_le _), List.append_nil, ← List.map_reverse,
      ← List.map_take]
    rfl
  refine ⟨hmemory, fun hroom => ?_⟩
  rw [hmemory, hfile, List.take_of_length_le (by rw [List.length_reverse]; omega)]

/-- A job with a name in other letters, a fault, and an end in another zone. -/
def faultyJob : Job where
  id := ofString "7f"
  name := ofString "café 🌹\n"
  submitted := ⟨⟨2024, 2, 29⟩, { hour := 23, minute := 5, micro := 40 }, some 0⟩
  status := .ended .failed
  statementCount := 3
  steps := 2
  error := some (ofString "RuntimeError: \"display lost\"")
  finished := some ⟨⟨2024, 3, 1⟩, { minute := 5, second := 1 }, some (-5400000000)⟩

theorem faultyJob_isStorable : faultyJob.IsStorable where
  statementCount := by decide
  steps := by decide
  submitted := ⟨by decide, by decide, by rintro _ ⟨⟩; decide⟩
  finished := by
    rintro _ ⟨⟩
    exact ⟨by decide, by decide, by rintro _ ⟨⟩; decide⟩

/-- A history in a file shows the job again, whatever its name has. -/
theorem histories_agree_faulty : (∀ j ∈ [faultyJob], j.IsStorable) ∧
    ((History.file none).enter [faultyJob.record]).recent 1 = .ok [faultyJob.record] := by
  have hjs : ∀ j ∈ [faultyJob], j.IsStorable :=
    List.forall_mem_cons.mpr ⟨faultyJob_isStorable, nofun⟩
  refine ⟨hjs, ?_⟩
  have hshown := (histories_agree [faultyJob] hjs 1).1
  rw [List.map_singleton] at hshown
  exact hshown

end Dialogue.Jobs
