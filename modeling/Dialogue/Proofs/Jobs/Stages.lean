import Dialogue.Proofs.Jobs.Ledger

/-!
# Stages of a job

An accepted job waits in the queue, is executed, or is finished. The ledger puts every job at one of
these stages, provided that no job was left with an error; and then a worker finds what it needs for
the next job.

* `Stage`, `Board.At`: the ways in which a job stands; `Board.At.eq_ofStatus`: its status tells which;
* **`Ledger.existsUnique_stage`**: an accepted job is at one stage;
* `Ledger.current_of_running`, `Ledger.mem_finished_iff`: what running and finished jobs have behind
  them;
* `Scheduler.TakesNext`: a worker goes on with the next job (`Ledger.takesNext`);
* `Scheduler.job_eq_of_slot`: a job is found by its identifier.
-/

namespace Dialogue.Jobs

open Text Machine Time Script

variable {ω β : Type} {c : Setup ω β} {s : Scheduler ω β} {newId : Nat → Text} {history : History}
  {ds : List Deed} {b : Board} {n : Nat} {x : Entry}

/-! ## Stages -/

/-- The ways in which an accepted job stands. -/
inductive Stage where
  | queued
  | executed
  | finished
  deriving DecidableEq, Repr

/-- The stage that a status belongs to. -/
def Stage.ofStatus : JobStatus → Stage
  | .queued => queued
  | .running => executed
  | .ended _ => finished

/-- The job in slot `n` stands at a stage. Its script is kept until it is begun. -/
def Board.At (b : Board) (n : Nat) (x : Entry) : Stage → Prop
  | .queued => n ∈ b.queue ∧ x.job.status = .queued ∧ x.script.isSome
  | .executed => n ∈ b.current ∧ x.job.status = .running ∧ x.script = none
  | .finished =>
    (∃ ending, x.job.status = .ended ending) ∧ x.job.finished.isSome ∧ x.script = none

theorem Board.At.eq_ofStatus {stage : Stage} (hx : b.At n x stage) :
    stage = .ofStatus x.job.status := by
  cases stage with
  | queued | executed =>
    rw [hx.2.1]
    rfl
  | finished =>
    obtain ⟨⟨ending, hstatus⟩, -⟩ := hx
    rw [hstatus]
    rfl

namespace Ledger

/-- The jobs that were begun, where none was left with an error. -/
theorem begun_perm_of_not_escaped (hb : Ledger newId history ds b)
    (hescaped : ∀ n, Deed.escaped n ∉ ds) : (begun ds).Perm (finished ds ++ b.current) := by
  rw [finished_eq_left hescaped]
  exact hb.begun_perm

theorem exists_stage (hb : Ledger newId history ds b) (hescaped : ∀ n, Deed.escaped n ∉ ds)
    (hn : n ∈ accepted ds) (hx : b.entries[n]? = some x) : ∃ stage, b.At n x stage := by
  rw [hb.order, List.mem_append, (hb.begun_perm_of_not_escaped hescaped).mem_iff,
    List.mem_append] at hn
  rcases hn with (hfinished | hcurrent) | hqueue
  · obtain ⟨y, hy, hended⟩ := hb.ended_of_mem_finished hfinished
    obtain rfl := Option.some.inj (hx.symm.trans hy)
    exact ⟨.finished, hended.status, hended.finished, hended.script⟩
  · obtain ⟨y, hy, hruns⟩ := hb.runs_of_current hcurrent
    obtain rfl := Option.some.inj (hx.symm.trans hy)
    exact ⟨.executed, hcurrent, hruns.status, hruns.script⟩
  · obtain ⟨y, hy, hwaits⟩ := hb.waits_of_mem_queue hqueue
    obtain rfl := Option.some.inj (hx.symm.trans hy)
    exact ⟨.queued, hqueue, hwaits.status, hwaits.script⟩

/-- **An accepted job is at one stage.** -/
theorem existsUnique_stage (hb : Ledger newId history ds b) (hescaped : ∀ n, Deed.escaped n ∉ ds)
    (hn : n ∈ accepted ds) : ∃ x, b.entries[n]? = some x ∧ ∃! stage, b.At n x stage := by
  have hx := List.getElem?_eq_getElem (hb.bounded n hn)
  obtain ⟨stage, hstage⟩ := hb.exists_stage hescaped hn hx
  refine ⟨_, hx, stage, hstage, fun stage' hstage' => ?_⟩
  rw [hstage.eq_ofStatus, hstage'.eq_ofStatus]

/-- Where no job was left with an error, a running job is executed. -/
theorem current_of_running (hb : Ledger newId history ds b) (hescaped : ∀ n, Deed.escaped n ∉ ds)
    (hx : b.entries[n]? = some x) (hrunning : x.job.status = .running) : n ∈ b.current := by
  cases hb.stands n x hx with
  | waits _ hwaits => cases hrunning.symm.trans hwaits.status
  | ended _ hended =>
    obtain ⟨ending, hstatus⟩ := hended.status
    cases hrunning.symm.trans hstatus
  | runs hbegun hfinished _ =>
    rw [(hb.begun_perm_of_not_escaped hescaped).mem_iff, List.mem_append] at hbegun
    exact hbegun.resolve_left hfinished

theorem mem_finished_iff (hb : Ledger newId history ds b) (hx : b.entries[n]? = some x) :
    n ∈ finished ds ↔ ∃ ending, x.job.status = .ended ending := by
  constructor
  · intro hn
    obtain ⟨y, hy, hended⟩ := hb.ended_of_mem_finished hn
    obtain rfl := Option.some.inj (hx.symm.trans hy)
    exact hended.status
  · rintro ⟨ending, hstatus⟩
    cases hb.stands n x hx with
    | waits _ hwaits => cases hstatus.symm.trans hwaits.status
    | runs _ _ hruns => cases hstatus.symm.trans hruns.status
    | ended hn _ => exact hn

end Ledger

/-! ## What a scheduler finds -/

/-- A worker that is ready begins to execute the next job, whose script is there. -/
def Scheduler.TakesNext (c : Setup ω β) (s : Scheduler ω β) : Prop :=
  ∀ n rest, s.worker = .idle → s.queue = n :: rest →
    ∃ x script t, s.slots[n]? = some x ∧ x.script = some script ∧ s.tick? c = some t ∧
      t.execution? = some (s.execution c n script x.output)

/-- A worker that is ready goes on with the next job in the queue, whoever else is at work. -/
theorem Ledger.takesNext (hb : Ledger newId history ds b) (hentries : b.entries = s.board.entries)
    (hqueue : b.queue = s.queue) : s.TakesNext c := by
  intro n rest hidle hnext
  have hmem : n ∈ b.queue := by
    rw [hqueue, hnext]
    exact List.mem_cons_self
  obtain ⟨y, hy, hwaits⟩ := hb.waits_of_mem_queue hmem
  rw [hentries] at hy
  obtain ⟨x, hx, rfl⟩ := Scheduler.slot_of_entry hy
  obtain ⟨script, hscript⟩ := Option.isSome_iff_exists.mp hwaits.script
  obtain ⟨t, ht, hexecution⟩ := Scheduler.tick?_of_idle (c := c) hidle hnext hx hscript
  exact ⟨x, script, t, hx, hscript, ht, hexecution⟩

/-- **A job is found by its identifier.** -/
theorem Ledger.job_eq (hb : Ledger newId history ds b) (hentries : b.entries = s.board.entries)
    (hids : Function.Injective newId) (hx : b.entries[n]? = some x) :
    s.job (newId n) = .ok x.job := by
  have hid (m : Nat) (y : Slot ω) (hy : s.slots[m]? = some y) : y.job.id = newId m :=
    hb.ids m y.entry (hentries ▸ Scheduler.entry_of_slot hy)
  rw [hentries] at hx
  obtain ⟨y, hy, rfl⟩ := Scheduler.slot_of_entry hx
  obtain ⟨hlt, hget⟩ := List.getElem?_eq_some_iff.mp hy
  have hlt' : n < s.jobs.length := by simpa [Scheduler.jobs] using hlt
  have hfind : s.jobs.find? (fun j => j.id = newId n) = some y.job := by
    refine List.find?_eq_some_iff_getElem.mpr ⟨by simpa using hid n y hy, n, hlt', ?_, ?_⟩
    · simp [Scheduler.jobs, hget]
    · intro m hm
      have hne : s.slots[m].job.id ≠ newId n := by
        rw [hid m _ (List.getElem?_eq_getElem (Nat.lt_trans hm hlt))]
        exact fun h => Nat.ne_of_lt hm (hids h)
      simpa [Scheduler.jobs] using hne
  unfold Scheduler.job
  rw [hfind]
  rfl

end Dialogue.Jobs
