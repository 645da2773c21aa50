import Dialogue.Proofs.Jobs.Orderly

/-!
# The safety of the queue

Whatever is submitted, and whenever workers are started, asked to stop and forgotten, an accepted job
waits in the queue, is executed, or is finished. The jobs are begun in the order in which they were
submitted, each once, and the history gets one record of each. But they are executed one at a time
only where no worker is started while somebody waits for one to go. Otherwise the one who has waited
may forget the new worker in the place of the old one, and the next `start` puts another beside it.

* `Crew.Course.final`: a finished job stays as it is;
* `Crew.QueueSafe`: the properties of a state and of all that come after it; `Crew.Serial`: one job is
  running at most;
* **`Crew.Course.queueSafe`**: every state that a crew gets to is safe, and orderly steps lead to serial
  ones, if no identifier is given twice and no report is refused;
* `Crew.Course.exists_crowded`: two jobs are running after a `stop` and a `start` at one time.
-/

namespace Dialogue.Jobs.Crew

open Text Machine Time Script

variable {ω β : Type} {c : Setup ω β} {k l : Crew ω β} {history : History} {ds es : List Deed}
  {n : Nat}

/-- **A finished job stays as it is, whatever happens.** -/
theorem Course.final {game : β} (hk : Course (Step c) (.fresh history game) ds k)
    (hn : n ∈ finished ds) (hkl : Course (Step c) k es l) :
    l.shared.slots[n]?.map Slot.job = k.shared.slots[n]?.map Slot.job ∧ n ∉ begun es ∧
      n ∉ finished es := by
  have hleft : n ∈ left ds := (finished_sublist_left ds).subset hn
  obtain ⟨-, hsame, hbegun⟩ := hkl.rests (hk.ledger.rests_of_left hleft)
  refine ⟨?_, hbegun, fun hn' => ?_⟩
  · change l.shared.board.entries[n]? = k.shared.board.entries[n]? at hsame
    rw [Scheduler.entries_getElem?, Scheduler.entries_getElem?] at hsame
    simpa [Function.comp_def, Slot.entry] using congrArg (Option.map Entry.job) hsame
  · have hnodup := (hk.trans hkl).ledger.finished_nodup
    rw [finished_append] at hnodup
    exact (List.nodup_append.mp hnodup).2.2 n hn n hn' rfl

/-- The queue is safe in a state that the deeds have led to. -/
structure QueueSafe (c : Setup ω β) (history : History) (ds : List Deed) (k : Crew ω β) :
    Prop where
  /-- An identifier that was returned leads to a job, which is at one stage. -/
  placed : ∀ n id, .submitted n (.ok id) ∈ ds →
    ∃ x, k.shared.slots[n]? = some x ∧ k.shared.job id = .ok x.job ∧
      ∃! stage, k.board.At n x.entry stage
  /-- The accepted jobs are those that were begun, in the order of submission, and the queue. -/
  order : accepted ds = begun ds ++ k.shared.queue
  /-- The jobs are in order of submission, and no job is there twice. -/
  ascending : (accepted ds).Pairwise (· < ·)
  /-- The jobs that were begun are those that are finished and those that are executed. -/
  executed : (begun ds).Perm (finished ds ++ k.current)
  /-- No job is executed by two workers. -/
  apart : k.current.Nodup
  /-- A running job is executed by somebody. -/
  running : ∀ n x, k.shared.slots[n]? = some x → x.job.status = .running → n ∈ k.current
  /-- Every worker that is ready finds the script of the next job. -/
  takesNext : ∀ m ∈ k.members, (k.seenBy m.worker).TakesNext c
  finished_iff : ∀ n x, k.shared.slots[n]? = some x →
    (n ∈ finished ds ↔ ∃ ending, x.job.status = .ended ending)
  /-- The history has had one record of each job that is finished. -/
  recorded : (finished ds).Nodup ∧
    k.shared.history = history.enter (recordsOf k.shared.board.entries (finished ds))
  /-- A record is entered in the step that finishes its job, and in no other. -/
  enters : ∀ d l, Step c k d l →
    (d.finished? = none ∧ l.shared.history = k.shared.history) ∨
      ∃ n x, d.finished? = some n ∧ n ∉ finished ds ∧ l.shared.slots[n]? = some x ∧
        l.shared.history = k.shared.history.append x.job.record
  /-- A job that is finished stays as it is, whatever happens. -/
  final : ∀ n ∈ finished ds, ∀ es l, Course (Step c) k es l →
    l.shared.slots[n]?.map Slot.job = k.shared.slots[n]?.map Slot.job ∧ n ∉ begun es ∧
      n ∉ finished es

/-- One job is running at most. -/
def Serial (k : Crew ω β) : Prop :=
  ∀ (m n : Nat) (x y : Slot ω), k.shared.slots[m]? = some x → k.shared.slots[n]? = some y →
    x.job.status = .running → y.job.status = .running → m = n

theorem Course.safe {game : β} (hids : Function.Injective c.newId)
    (hreports : ∀ trouble, ¬ c.host.Refuses trouble)
    (hk : Course (Step c) (.fresh history game) ds k) : QueueSafe c history ds k := by
  have hb := hk.ledger
  have hescaped := hk.not_escaped hreports
  have hsame : k.board.entries = k.shared.board.entries := rfl
  exact {
    placed := by
      intro n id hmem
      obtain ⟨y, hy, hstage⟩ := hb.existsUnique_stage hescaped (mem_accepted_iff.mpr ⟨id, hmem⟩)
      obtain rfl := hb.replies n id hmem
      have hjob := hb.job_eq hsame hids hy
      obtain ⟨x, hx, rfl⟩ := Scheduler.slot_of_entry (hsame ▸ hy)
      exact ⟨x, hx, hjob, hstage⟩
    order := hb.order
    ascending := hb.ascending
    executed := hb.begun_perm_of_not_escaped hescaped
    apart := hb.current_nodup
    running := fun n x hx => hb.current_of_running hescaped (Scheduler.entry_of_slot hx)
    takesNext := fun m _ => hb.takesNext hsame rfl
    finished_iff := fun n x hx => hb.mem_finished_iff (Scheduler.entry_of_slot hx)
    recorded := ⟨hb.finished_nodup, hb.history_eq⟩
    enters := by
      intro d l hstep
      rcases hb.history_step hstep.shift with hkept | ⟨n, y, hd, hn, hy, hhistory⟩
      · exact .inl hkept
      · obtain ⟨x, hx, rfl⟩ := Scheduler.slot_of_entry (s := l.shared) hy
        exact .inr ⟨n, x, hd, hn, hx, hhistory⟩
    final := fun n hn es l hkl => hk.final hn hkl }

theorem QueueSafe.serial (hsafe : QueueSafe c history ds k) (hk : k.Single) : k.Serial :=
  fun m n x y hx hy hrunning hrunning' =>
    hk.current_unique (hsafe.running m x hx hrunning) (hsafe.running n y hy hrunning')

/-- **The queue is safe in every state that a crew gets to**, if no identifier is given twice and no
report of a fault is refused; and one job is running at most, if no worker was started while somebody
waited for one to go. -/
theorem Course.queueSafe {game : β} (hids : Function.Injective c.newId)
    (hreports : ∀ trouble, ¬ c.host.Refuses trouble)
    (hk : Course (Step c) (.fresh history game) ds k) :
    QueueSafe c history ds k ∧
      (Course (Orderly c) (.fresh history game) ds k → k.Serial) := by
  have hsafe := hk.safe hids hreports
  exact ⟨hsafe, fun horderly => hsafe.serial horderly.single⟩

/-- A worker is stopped in the middle of one job, and the next worker takes the other one. -/
theorem Course.queueSafe_stopped : ∃ (ds : List Deed) (k : Crew Unit Unit),
    Function.Injective (Setup.plain Host.unanswered 100).newId ∧
      (∀ trouble, ¬ (Setup.plain Host.unanswered 100).host.Refuses trouble) ∧
      Course (Orderly (.plain Host.unanswered 100)) (.fresh (.memory 9 []) ()) ds k ∧
      finished ds = [0] ∧ k.current = [1] ∧
      QueueSafe (.plain Host.unanswered 100) (.memory 9 []) ds k ∧ k.Serial := by
  have hids : Function.Injective (Setup.plain Host.unanswered 100).newId := fun m n h => by
    simpa [Setup.plain] using congrArg List.length h
  let c := Setup.plain Host.unanswered 100
  have hsubmitted : Course (Orderly c) (.fresh (.memory 9 []) ()) _ _ :=
    .tail (.tail .refl ⟨.submit _ (ofString "Act_Speak [\"hi\"]") () none, fun _ => rfl⟩)
      ⟨.submit _ [] () none, fun _ => rfl⟩
  have hbegun := (hsubmitted.tail ⟨.start _, fun h => absurd rfl h⟩).tail
    ⟨.take (i := 0) rfl rfl rfl rfl, fun _ => rfl⟩
  have hstopped := ((hbegun.tail ⟨.ask _, fun _ => rfl⟩).tail
    ⟨.cancel (i := 0) rfl rfl rfl, fun _ => rfl⟩).tail
    ⟨.forget (i := 0) (List.mem_singleton.mpr rfl) rfl, fun _ => rfl⟩
  have hk := (hstopped.tail ⟨.start _, fun h => absurd rfl h⟩).tail
    ⟨.take (i := 1) rfl rfl rfl rfl, fun _ => rfl⟩
  obtain ⟨hsafe, hserial⟩ := Course.queueSafe hids Host.not_refuses_unanswered hk.of_orderly
  exact ⟨_, _, hids, Host.not_refuses_unanswered, hk, rfl, rfl, hsafe, hserial hk⟩

theorem not_serial_of_running (h : k.shared.jobs.map Job.status = [.running, .running]) :
    ¬ k.Serial := by
  intro hserial
  rw [Scheduler.jobs, List.map_map, List.map_eq_cons_iff] at h
  obtain ⟨x, rest, hslots, hx, hrest⟩ := h
  obtain ⟨y, _, rfl, hy, -⟩ := List.map_eq_cons_iff.mp hrest
  have hzero : k.shared.slots[0]? = some x := by rw [hslots]; rfl
  have hone : k.shared.slots[1]? = some y := by rw [hslots]; rfl
  cases hserial 0 1 x y hzero hone hx hy

/-- **Two jobs are running** when a worker is started while somebody waits for the one before to go.
Whoever waits forgets the new worker, the next `start` puts another beside it, and each of them is held
at the prompt of a job. -/
theorem Course.exists_crowded : ∃ (ds : List Deed) (k : Crew Unit Unit),
    Course (Step (.plain Host.unanswered 100)) (.fresh (.memory 9 []) ()) ds k ∧
      k.shared.jobs.map Job.status = [.running, .running] ∧ k.current = [0, 1] ∧ ¬ k.Serial := by
  let c := Setup.plain Host.unanswered 100
  let source := ofString "Show_Options [\"yes\"]"
  have hasked : Course (Step c) (.fresh (.memory 9 []) ()) _ _ :=
    .tail (.tail .refl (.start _)) (.ask _)
  have hstarted := (hasked.tail (.dismiss (i := 0) rfl rfl rfl)).tail (.start _)
  have hforgotten := hstarted.tail (.forget (i := 0) (List.mem_singleton.mpr rfl) rfl)
  have hsubmitted := ((hforgotten.tail (.start _)).tail (.submit _ source () none)).tail
    (.submit _ source () none)
  have hfirst := ((hsubmitted.tail (.take (i := 1) rfl rfl rfl rfl)).tail
    (.turn (i := 1) rfl rfl rfl)).tail (.turn (i := 1) rfl rfl rfl)
  have hk := ((hfirst.tail (.take (i := 2) rfl rfl rfl rfl)).tail
    (.turn (i := 2) rfl rfl rfl)).tail (.turn (i := 2) rfl rfl rfl)
  refine ⟨_, _, hk, ?hrunning, rfl, not_serial_of_running ?hrunning⟩
  case hrunning => rfl

end Dialogue.Jobs.Crew
