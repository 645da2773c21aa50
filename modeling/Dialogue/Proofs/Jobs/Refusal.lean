import Dialogue.Jobs.Listing
import Dialogue.Proofs.Jobs.Crew
import Dialogue.Proofs.Text.Numeral

/-!
# What a refused submission leaves behind

A submission is refused when too many jobs wait. Its job has been entered by then. The queue, the
workers and the history are as they were, but the job is listed, it takes a number from the names of
later jobs, and it is shown as waiting for ever, since nothing leads from there to the queue.

* `Scheduler.recent_of_le`: a listing that the jobs fill;
* `Scheduler.length_eq_of_defaultName`: a job more means another name;
* `Crew.register_rests`: nothing leads from outside the queue to an execution;
* `Scheduler.Untouched`: nobody can tell that there was a submission;
* `Crew.Refused`: what is left behind, which can be told (`Crew.Refused.not_untouched`);
* **`Crew.Course.refused`**: that much is left behind by every refused submission;
* `exists_touched`: two submissions where one may wait.
-/

namespace Dialogue.Jobs

open Text Machine Time Script

variable {ω β : Type} {c : Setup ω β} {s t : Scheduler ω β} {k l : Crew ω β} {history : History}
  {ds : List Deed}

/-! ## Listings -/

namespace Scheduler

theorem length_newestFirst (s : Scheduler ω β) : s.newestFirst.length = s.slots.length := by
  simp [newestFirst, jobs]

theorem mem_newestFirst {x : Slot ω} (hx : x ∈ s.slots) : x.job ∈ s.newestFirst := by
  rw [newestFirst, List.mem_mergeSort]
  exact List.mem_map_of_mem hx

theorem recent_of_le {limit : Int} (h : limit ≤ s.slots.length) :
    s.recent limit = .ok (takeLimit limit (s.newestFirst.map Job.record)) := by
  have h' : limit ≤ (s.newestFirst.map Job.record).length := by
    rwa [List.length_map, length_newestFirst]
  unfold recent
  rw [if_pos h']

/-- A listing with room for all jobs and no more shows them all. -/
theorem recent_length (s : Scheduler ω β) :
    s.recent s.slots.length = .ok (s.newestFirst.map Job.record) := by
  have hlength : (s.newestFirst.map Job.record).length = s.slots.length := by
    rw [List.length_map, length_newestFirst]
  rw [recent_of_le (Int.le_refl _), takeLimit, if_neg (by omega), Int.toNat_natCast,
    List.take_of_length_le (Nat.le_of_eq hlength)]

/-- A listing without the last one. -/
theorem recent_neg_one {records : List Record} (h : s.recent (-1) = .ok records) :
    records.length = s.slots.length - 1 := by
  rw [recent_of_le (by omega), takeLimit, if_pos (by omega)] at h
  obtain rfl := Except.ok.inj h
  simp [length_newestFirst]

end Scheduler

/-! ## Names -/

theorem decimal_injective {m n : Nat} (h : decimal m = decimal n) : m = n := by
  rw [decimal_natCast, decimal_natCast] at h
  calc
    m = Nat.ofDigitChars 10 (Nat.toDigits 10 m) 0 := Nat.ofDigitChars_ten_toDigits.symm
    _ = Nat.ofDigitChars 10 (Nat.toDigits 10 n) 0 := by rw [h]
    _ = n := Nat.ofDigitChars_ten_toDigits

theorem Scheduler.length_eq_of_defaultName (h : t.defaultName = s.defaultName) :
    t.slots.length = s.slots.length := by
  have hdecimal := List.append_cancel_left h
  exact Nat.succ.inj (decimal_injective hdecimal)

/-! ## Jobs that are entered but not put in the queue -/

section Register

variable (c s) (source : Text) (output : ω) (name : Option Text)

theorem Scheduler.length_register :
    (s.register c source output name).slots.length = s.slots.length + 1 := by
  simp [register]

theorem Scheduler.register_recent : ∃ records,
    (s.register c source output name).recent (s.slots.length + 1) = .ok records ∧
      (s.newJob c source name).record ∈ records := by
  have hrecent := (s.register c source output name).recent_length
  rw [length_register] at hrecent
  refine ⟨_, hrecent, List.mem_map_of_mem ?_⟩
  exact mem_newestFirst (x := ⟨s.newJob c source name, some (parse c.marks source), output, []⟩)
    (List.mem_append_right _ (List.mem_singleton.mpr rfl))

theorem Scheduler.register_recent_ne (hslots : 0 < s.slots.length) :
    (s.register c source output name).recent (-1) ≠ s.recent (-1) := by
  intro h
  have hlimit : (-1 : Int) ≤ s.slots.length := by omega
  have hrecent := recent_of_le hlimit
  have hlength := recent_neg_one (h.trans hrecent)
  rw [recent_neg_one hrecent, length_register] at hlength
  omega

theorem Scheduler.register_defaultName_ne :
    (s.register c source output name).defaultName ≠ s.defaultName := by
  intro h
  have hlength := length_eq_of_defaultName h
  rw [length_register] at hlength
  omega

end Register

/-! ## Refusals -/

/-- Nobody can tell the two states apart: neither by the jobs, the scripts that are kept for them and
the queue, nor by a listing, nor by the name that a job gets. -/
structure Scheduler.Untouched (s t : Scheduler ω β) : Prop where
  entries_eq : t.board.entries = s.board.entries
  queue_eq : t.queue = s.queue
  recent_eq : ∀ limit, t.recent limit = s.recent limit
  defaultName_eq : t.defaultName = s.defaultName

namespace Crew

/-- The crew with a job that is entered but not put in the queue. -/
def register (c : Setup ω β) (k : Crew ω β) (source : Text) (output : ω) (name : Option Text) :
    Crew ω β :=
  { k with shared := k.shared.register c source output name }

/-- The job is at rest. -/
theorem register_rests (hk : Ledger c.newId history ds k.board) (source : Text) (output : ω)
    (name : Option Text) : (k.register c source output name).board.Rests k.shared.slots.length := by
  have hlength : k.board.entries.length = k.shared.slots.length := k.shared.length_entries
  have hbounded {n : Nat} (hn : n ∈ accepted ds) : n ≠ k.shared.slots.length :=
    Nat.ne_of_lt (hlength ▸ hk.bounded n hn)
  have hboard : (k.register c source output name).board =
      { (k.shared.register c source output name).board with current := k.current } := rfl
  rw [hboard, Scheduler.register_board]
  refine ⟨?_, fun h => ?_, fun h => ?_⟩
  · simp [k.shared.length_entries]
  · exact hbounded (hk.accepted_of_mem_begun (hk.begun_of_current h)) rfl
  · exact hbounded (hk.order ▸ List.mem_append_right _ h) rfl

/-- What a refused submission leaves behind. -/
structure Refused (c : Setup ω β) (source : Text) (k l : Crew ω β) : Prop where
  full : 0 < c.capacity ∧ c.capacity ≤ k.shared.queue.length
  queue_eq : l.shared.queue = k.shared.queue
  workers_eq : l.members = k.members ∧ l.remembered = k.remembered ∧ l.awaited = k.awaited
  history_eq : l.shared.history = k.shared.history
  game_eq : l.shared.game = k.shared.game
  /-- There is a job more, and it has a script. -/
  entered : ∃ x, l.shared.slots = k.shared.slots ++ [x] ∧
    x.job.id = c.newId k.shared.slots.length ∧ x.job.status = .queued ∧
    x.script = some (parse c.marks source) ∧
    ∃ records, l.shared.recent (k.shared.slots.length + 1) = .ok records ∧ x.job.record ∈ records
  /-- Its script is never executed, and the job does not change. -/
  stranded : ∀ es j, Course (Step c) l es j →
    k.shared.slots.length ∉ begun es ∧ k.shared.slots.length ∉ j.shared.queue ∧
      j.board.entries[k.shared.slots.length]? = l.board.entries[k.shared.slots.length]?
  recent_ne : ∃ limit, l.shared.recent limit ≠ k.shared.recent limit
  defaultName_ne : l.shared.defaultName ≠ k.shared.defaultName

theorem Refused.not_untouched {source : Text} (h : Refused c source k l) :
    ¬ k.shared.Untouched l.shared :=
  fun hsame => h.defaultName_ne hsame.defaultName_eq

/-- **Every refused submission leaves a job behind.** -/
theorem Course.refused {game : β} {source : Text} {output : ω} {name : Option Text} {e : QueueFull}
    (hk : Course (Step c) (.fresh history game) ds k)
    (ht : k.shared.submit c source output name = (.error e, t)) :
    Refused c source k { k with shared := t } := by
  have hfull : k.shared.isFull c = true := by
    by_contra hnot
    rw [Scheduler.submit_of_not_full (by simpa using hnot)] at ht
    cases ht
  obtain rfl : k.shared.register c source output name = t := by
    rw [Scheduler.submit_of_full hfull] at ht
    exact (Prod.ext_iff.mp ht).2
  have hfull' : 0 < c.capacity ∧ c.capacity ≤ k.shared.queue.length := by
    simpa [Scheduler.isFull] using hfull
  -- some job waits, so that a listing without the last one is shorter by one than before
  have hslots : 0 < k.shared.slots.length := by
    obtain ⟨n, hn⟩ := List.exists_mem_of_length_pos (l := k.shared.queue) (by omega)
    have hlt : n < k.shared.board.entries.length :=
      hk.ledger.bounded n (hk.ledger.order ▸ List.mem_append_right _ hn)
    rw [k.shared.length_entries] at hlt
    omega
  have hrests := register_rests hk.ledger source output name
  refine ⟨hfull', rfl, ⟨rfl, rfl, rfl⟩, rfl, rfl, ?_, fun es j hj => ?_, ⟨-1, ?_⟩, ?_⟩
  · exact ⟨_, rfl, rfl, rfl, rfl, k.shared.register_recent c source output name⟩
  · obtain ⟨hrests', hsame, hbegun⟩ := Course.rests hj hrests
    exact ⟨hbegun, hrests'.not_queued, hsame⟩
  · exact k.shared.register_recent_ne c source output name hslots
  · exact k.shared.register_defaultName_ne c source output name

/-- A second submission where one job may wait. -/
theorem Course.refused_second : ∃ (ds : List Deed) (k : Crew Unit Unit) (t : Scheduler Unit Unit)
    (e : QueueFull), Course (Step (.plain Host.unanswered 1)) (.fresh (.memory 9 []) ()) ds k ∧
      k.shared.submit (.plain Host.unanswered 1) (ofString "Act_Speak [\"hi\"]") () none =
        (.error e, t) ∧
      Refused (.plain Host.unanswered 1) (ofString "Act_Speak [\"hi\"]") k
        { k with shared := t } := by
  let c := Setup.plain Host.unanswered 1
  have hk : Course (Step c) (.fresh (.memory 9 []) ()) _ _ :=
    .tail .refl (.submit _ (ofString "Act_Speak [\"hi\"]") () none)
  exact ⟨_, _, _, ⟨1⟩, hk, rfl, Course.refused hk rfl⟩

end Crew

/-- **A submission that is refused can be told**: the job in the queue has another beside it that
never gets there. -/
theorem exists_touched : ∃ (s t : Scheduler Unit Unit) (e : QueueFull),
    s = ((Scheduler.fresh (.memory 9 []) ()).submit (.plain Host.unanswered 1) [] () none).2 ∧
      s.submit (.plain Host.unanswered 1) [] () none = (.error e, t) ∧
      t.queue = [0] ∧ t.jobs.map Job.status = [.queued, .queued] ∧ ¬ s.Untouched t := by
  refine ⟨_, _, ⟨1⟩, rfl, rfl, rfl, rfl, fun h => ?_⟩
  have hlength := Scheduler.length_eq_of_defaultName h.defaultName_eq
  cases hlength

end Dialogue.Jobs
