import Dialogue.Proofs.Jobs.Stages
import Dialogue.Proofs.Machine.Return

/-!
# Whether jobs harm each other

A job that fails is finished like any other, and the worker goes on with the next one. There is one
exception. If the display refuses the line that reports the failure, the worker dies of that: the job
is shown as running with nobody who executes it, and the jobs behind it wait until somebody starts a
worker again.

* `Happens.idle_of_ended`: a worker that has ended a job is ready for the next;
* `Isolated`: no job has done harm to the others;
* **`Course.isolated_iff`**: that is so iff no job was left with an error;
* `Course.exists_stranded`: a display that takes no line has two jobs stranded.
-/

namespace Dialogue.Jobs

open Text Machine Time Script

variable {ω β : Type} {c : Setup ω β} {s t : Scheduler ω β} {history : History}
  {ds : List Deed} {d : Deed} {n : Nat}

/-! ## The worker after a job -/

theorem follow_ended {e : Execution ω β} {turn : Turn ω β} (hturn : deedOf e.slot turn = .ended n) :
    (s.follow c e turn).worker = .idle := by
  cases turn with
  | ended x => rfl
  | again x | held x | escaped trouble x => cases hturn

theorem Happens.idle_of_ended (hstep : Happens c s d t) (hd : d = .ended n) : t.worker = .idle := by
  cases hstep with
  | turn | late => exact follow_ended hd
  | submit | start | dismiss | cancel | take | display => cases hd

/-! ## Isolation -/

/-- No job has done harm to the others in a state that the deeds have led to. -/
structure Isolated (c : Setup ω β) (history : History) (ds : List Deed)
    (s : Scheduler ω β) : Prop where
  /-- A job that the worker is done with has its end. -/
  done : ∀ n ∈ left ds, ∃ x, s.slots[n]? = some x ∧ (∃ ending, x.job.status = .ended ending) ∧
    x.job.finished.isSome
  /-- The history has had one record of each of them. -/
  recorded : (left ds).Nodup ∧
    s.history = history.enter (recordsOf s.board.entries (left ds))
  /-- No job is running with nobody who executes it. -/
  running : ∀ n x, s.slots[n]? = some x → x.job.status = .running → s.current = some n
  /-- A worker that is done with a job is ready for the next, unless it was dismissed. -/
  ready : ∀ es d n, ds = es ++ [d] → d.left? = some n → d ≠ .cancelled n → s.worker = .idle
  takesNext : s.TakesNext c

/-- A job that was left with an error is shown as running, and it was left because the display
refused a report. -/
theorem Course.running_of_escaped {game : β} (hs : Course c (.fresh history game) ds s)
    (hn : Deed.escaped n ∈ ds) :
    (∃ x, s.slots[n]? = some x ∧ x.job.status = .running ∧ x.job.finished = none) ∧
      ∃ trouble, c.host.Refuses trouble := by
  constructor
  · obtain ⟨y, hy, hruns⟩ := hs.ledger.runs_of_escaped hn
    obtain ⟨x, hx, rfl⟩ := Scheduler.slot_of_entry hy
    exact ⟨x, hx, hruns.status, hruns.finished⟩
  · by_contra hnot
    exact hs.not_escaped (fun trouble h => hnot ⟨trouble, h⟩) n hn

theorem Course.isolated {game : β} (hs : Course c (.fresh history game) ds s)
    (hescaped : ∀ n, Deed.escaped n ∉ ds) : Isolated c history ds s where
  done n hn := by
    rw [← finished_eq_left hescaped] at hn
    obtain ⟨y, hy, hended⟩ := hs.ledger.ended_of_mem_finished hn
    obtain ⟨x, hx, rfl⟩ := Scheduler.slot_of_entry hy
    exact ⟨x, hx, hended.status, hended.finished⟩
  recorded := by
    rw [← finished_eq_left hescaped]
    exact ⟨hs.ledger.finished_nodup, hs.ledger.history_eq⟩
  running n x hx hrunning := by
    have hentry := Scheduler.entry_of_slot hx
    exact Option.mem_toList.mp (hs.ledger.current_of_running hescaped hentry hrunning)
  ready es d n hds hleft hd := by
    subst hds
    obtain ⟨t, -, hstep⟩ := hs.last
    cases d with
    | ended m => exact hstep.idle_of_ended rfl
    | cancelled m => cases hleft; exact absurd rfl hd
    | escaped m => exact absurd (by simp) (hescaped m)
    | submitted | began | quiet => cases hleft
  takesNext := hs.ledger.takesNext rfl rfl

/-- **No job has done harm to the others iff no job was left with an error.** Such a job is shown as
running for ever, and there are none unless the display refuses the report of a fault. -/
theorem Course.isolated_iff {game : β} (hs : Course c (.fresh history game) ds s) :
    (Isolated c history ds s ↔ ∀ n, Deed.escaped n ∉ ds) ∧
      ∀ n, Deed.escaped n ∈ ds →
        (∃ x, s.slots[n]? = some x ∧ x.job.status = .running ∧ x.job.finished = none) ∧
          ∃ trouble, c.host.Refuses trouble := by
  refine ⟨⟨fun hisolated n hn => ?_, hs.isolated⟩, fun n hn => hs.running_of_escaped hn⟩
  obtain ⟨⟨x, hx, hstatus, -⟩, -⟩ := hs.running_of_escaped hn
  obtain ⟨y, hy, ⟨ending, hending⟩, -⟩ := hisolated.done n (mem_left_iff.mpr (.inr hn))
  obtain rfl := Option.some.inj (hx.symm.trans hy)
  cases hstatus.symm.trans hending

/-- A display refuses a line but takes the report of that, and the worker goes on. -/
theorem Course.isolated_iff_goesOn : ∃ (ds : List Deed) (s : Scheduler Rehearsal Unit),
    Course (.plain (Host.rehearsed none) 100) (.fresh (.memory 9 []) ()) ds s ∧
      s.jobs.map Job.status = [.ended .failed, .running] ∧ s.current = some 1 ∧
      (Isolated (.plain (Host.rehearsed none) 100) (.memory 9 []) ds s ↔
        ∀ n, Deed.escaped n ∉ ds) := by
  let c : Setup Rehearsal Unit := .plain (Host.rehearsed none) 100
  let source := ofString "Act_Speak [\"hi\"]"
  have hsubmitted : Course c (.fresh (.memory 9 []) ()) _ _ :=
    .tail (.tail .refl (.submit _ source (lossy (.these [ofString "hi"])) none))
      (.submit _ source (lossy (.these [])) none)
  have hfirst := ((hsubmitted.tail (.start _)).tail (.take rfl rfl)).tail (.turn rfl)
  have hs := hfirst.tail (.take rfl rfl)
  exact ⟨_, _, hs, rfl, rfl, (Course.isolated_iff hs).1⟩

/-- **A display can do harm to other jobs.** It takes no line, the report of that least of all; the
worker dies of it, and both jobs are stranded. -/
theorem Course.exists_stranded : ∃ (ds : List Deed) (s : Scheduler Rehearsal Unit),
    Course (.plain (Host.rehearsed none) 100) (.fresh (.memory 9 []) ()) ds s ∧
      s.jobs.map Job.status = [.running, .queued] ∧ s.current = none ∧
      s.tick? (.plain (Host.rehearsed none) 100) = none ∧
      ¬ Isolated (.plain (Host.rehearsed none) 100) (.memory 9 []) ds s := by
  let c : Setup Rehearsal Unit := .plain (Host.rehearsed none) 100
  have hsubmitted : Course c (.fresh (.memory 9 []) ()) _ _ :=
    .tail (.tail .refl (.submit _ (ofString "Act_Speak [\"x\"]") (lossy .all) none))
      (.submit _ (ofString "Act_Speak [\"hi\"]") (lossy (.these [])) none)
  have hs := ((hsubmitted.tail (.start _)).tail (.take rfl rfl)).tail (.turn rfl)
  refine ⟨_, _, hs, rfl, rfl, rfl, fun hisolated => ?_⟩
  cases hisolated.running 0 _ rfl rfl

end Dialogue.Jobs
