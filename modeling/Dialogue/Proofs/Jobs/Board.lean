import Dialogue.Proofs.Jobs.Course
import Mathlib.Data.List.Perm.Basic

/-!
# What a step does to the jobs

The fate of jobs depends on four things that are shown of them: the jobs, each with its script until
it is begun; the queue; those that are executed; and the history. Displays, games and clocks have a
say in which step comes next, but each step does one of a few things to what is shown. None of them
minds how many other jobs are executed at the same time.

* `Entry`, `Board`: what is shown, and `Scheduler.board`: what a scheduler shows;
  `Scheduler.current`: the job that it executes;
* `Scheduler.newJob`, `Scheduler.register`: what a submission leaves in any case
  (`Scheduler.submit_of_full`, `Scheduler.submit_of_not_full`);
* `Scheduler.begin_cases`, `Scheduler.conclude_slots`: what the beginning and the end of a job do to
  the slots;
* `Shift`: the ways in which a board changes; `Shift.beside`: other jobs may be executed beside it;
* **`Happens.shift`**: every step of a scheduler is one of them.
-/

namespace Dialogue.Jobs

open Text Machine Time Script

variable {ω β : Type} {c : Setup ω β} {s t : Scheduler ω β} {d : Deed}

/-! ## Boards -/

/-- A job, and its script until it is begun. -/
structure Entry where
  job : Job
  script : Option (List Statement)

/-- What is shown of jobs. -/
structure Board where
  entries : List Entry
  queue : List Nat
  /-- The slots of the jobs that are executed, in any order. -/
  current : List Nat
  history : History

/-- What a slot shows. -/
def Slot.entry (x : Slot ω) : Entry := ⟨x.job, x.script⟩

/-- The slot of the job that is executed. -/
def Scheduler.current (s : Scheduler ω β) : Option Nat := s.execution?.map Execution.slot

/-- What a scheduler shows. -/
def Scheduler.board (s : Scheduler ω β) : Board where
  entries := s.slots.map Slot.entry
  queue := s.queue
  current := s.current.toList
  history := s.history

/-- The job with its end. -/
def Job.conclude (j : Job) (ending : Ending) (steps : Nat) (error : Option Text)
    (now : Timestamp) : Job :=
  { j with status := .ended ending, steps, error, finished := some now }

/-- The slot of a job that is begun. -/
def Slot.begin (x : Slot ω) : Slot ω :=
  { x with job := { x.job with status := .running }, script := none }

/-- The slot of a job that has ended. -/
def Slot.conclude (x : Slot ω) (e : Execution ω β) (ending : Ending) (error : Option Text)
    (now : Timestamp) : Slot ω :=
  { x with
    job := x.job.conclude ending e.session.state.steps error now
    output := e.session.output
    log := e.session.log }

/-! ## Submissions -/

namespace Scheduler

/-- The job of a submission. -/
def newJob (c : Setup ω β) (s : Scheduler ω β) (source : Text) (name : Option Text) : Job where
  id := c.newId s.slots.length
  name := if (name.getD []).isEmpty then s.defaultName else name.getD []
  submitted := c.clock s.readings
  statementCount := (parse c.marks source).length

/-- The scheduler with the job of a submission, which is not in the queue. -/
def register (c : Setup ω β) (s : Scheduler ω β) (source : Text) (output : ω)
    (name : Option Text) : Scheduler ω β :=
  { s with
    slots := s.slots ++
      [{ job := s.newJob c source name, script := some (parse c.marks source), output }]
    readings := s.readings + 1 }

theorem submit_of_full (hfull : s.isFull c = true) (source : Text) (output : ω)
    (name : Option Text) : s.submit c source output name =
      (.error ⟨c.capacity⟩, s.register c source output name) := by
  have hfull' : isFull c { s with readings := s.readings + 1 } = true := hfull
  simp only [submit, readClock, hfull', if_true]
  rfl

theorem submit_of_not_full (hfull : s.isFull c = false) (source : Text) (output : ω)
    (name : Option Text) : s.submit c source output name =
      (.ok (c.newId s.slots.length),
        { s.register c source output name with queue := s.queue ++ [s.slots.length] }) := by
  have hfull' : isFull c { s with readings := s.readings + 1 } = false := hfull
  simp only [submit, readClock, hfull', if_neg Bool.false_ne_true]
  rfl

theorem register_board (c : Setup ω β) (s : Scheduler ω β) (source : Text) (output : ω)
    (name : Option Text) : (s.register c source output name).board =
      { s.board with
        entries := s.board.entries ++
          [⟨s.newJob c source name, some (parse c.marks source)⟩] } := by
  simp [board, register, Slot.entry, current, execution?]

/-! ## Changes of a slot -/

theorem onSlot_slots {n m : Nat} {f : Slot ω → Slot ω} {x : Slot ω}
    (hx : (s.onSlot m f).slots[n]? = some x) :
    ∃ y, s.slots[n]? = some y ∧ x = if m = n then f y else y := by
  rw [onSlot, List.getElem?_modify] at hx
  obtain ⟨y, hy, hxy⟩ := Option.map_eq_some_iff.mp hx
  exact ⟨y, hy, hxy.symm⟩

/-- **The next job is begun** if its slot is there with a script, and passed over if not. -/
theorem begin_cases (c : Setup ω β) (s : Scheduler ω β) (n : Nat) (rest : List Nat) :
    (s.begin c n rest = { s with queue := rest } ∧
      ∀ x : Slot ω, s.slots[n]? = some x → x.script = none) ∨
    ∃ (x : Slot ω) (script : List Statement), s.slots[n]? = some x ∧ x.script = some script ∧
      s.begin c n rest =
        { s.onSlot n Slot.begin with
          queue := rest, worker := .busy (s.execution c n script x.output) } := by
  cases hx : s.slots[n]? with
  | none => exact .inl ⟨by simp only [begin, hx], nofun⟩
  | some x =>
    cases hscript : x.script with
    | none =>
      refine .inl ⟨by simp only [begin, hx, hscript], fun y hy => ?_⟩
      obtain rfl := Option.some.inj hy
      exact hscript
    | some script =>
      refine .inr ⟨x, script, rfl, hscript, ?_⟩
      simp only [begin, hx, hscript]
      rfl

/-- **A job that ends changes its slot only.** -/
theorem conclude_slots (s : Scheduler ω β) (e : Execution ω β) (ending : Ending)
    (error : Option Text) : (s.conclude c e ending error).slots =
      (s.onSlot e.slot fun x => x.conclude e ending error (c.clock s.readings)).slots := by
  unfold conclude
  simp only [onJob, onSlot, keep, readClock, List.modify_modify_eq]
  split <;> rfl

theorem conclude_game (s : Scheduler ω β) (e : Execution ω β) (ending : Ending)
    (error : Option Text) : (s.conclude c e ending error).game = e.session.game := by
  unfold conclude
  simp only
  split <;> rfl

theorem length_entries (s : Scheduler ω β) : s.board.entries.length = s.slots.length :=
  List.length_map _

theorem entries_getElem? (s : Scheduler ω β) (n : Nat) :
    s.board.entries[n]? = s.slots[n]?.map Slot.entry :=
  List.getElem?_map

theorem entry_of_slot {n : Nat} {x : Slot ω} (hx : s.slots[n]? = some x) :
    s.board.entries[n]? = some x.entry := by
  rw [entries_getElem?, hx]
  rfl

theorem slot_of_entry {n : Nat} {y : Entry} (hy : s.board.entries[n]? = some y) :
    ∃ x, s.slots[n]? = some x ∧ x.entry = y := by
  rw [entries_getElem?] at hy
  exact Option.map_eq_some_iff.mp hy

/-- A change of a slot is a change of its entry. -/
theorem onSlot_entries {n : Nat} {f : Slot ω → Slot ω} {g : Entry → Entry}
    (hf : ∀ x, (f x).entry = g x.entry) :
    (s.onSlot n f).slots.map Slot.entry = (s.slots.map Slot.entry).modify n g := by
  refine List.ext_getElem? fun m => ?_
  simp only [onSlot, List.getElem?_map, List.getElem?_modify]
  cases s.slots[m]? with
  | none => rfl
  | some x => by_cases hm : n = m <;> simp [hm, hf]

theorem keep_entries (s : Scheduler ω β) (e : Execution ω β) :
    (s.keep e).slots.map Slot.entry = s.slots.map Slot.entry := by
  have h := onSlot_entries (s := s) (n := e.slot) (g := id)
    (f := fun x => { x with output := e.session.output, log := e.session.log }) fun _ => rfl
  simpa [keep] using h

theorem keep_board (s : Scheduler ω β) (e : Execution ω β) (worker : Worker ω β) :
    board { s.keep e with worker } =
      { s.board with current := (current { s with worker }).toList } := by
  simp only [board, keep_entries]
  rfl

theorem conclude_queue (s : Scheduler ω β) (e : Execution ω β) (ending : Ending)
    (error : Option Text) : (s.conclude c e ending error).queue = s.queue := by
  unfold conclude
  simp only
  split <;> rfl

theorem conclude_entries (s : Scheduler ω β) (e : Execution ω β) (ending : Ending)
    (error : Option Text) :
    (s.conclude c e ending error).slots.map Slot.entry =
      (s.slots.map Slot.entry).modify e.slot fun x =>
        { x with job := x.job.conclude ending e.session.state.steps error (c.clock s.readings) } := by
  rw [conclude_slots]
  exact onSlot_entries fun _ => rfl

theorem conclude_history {e : Execution ω β} {x : Slot ω} (hx : s.slots[e.slot]? = some x)
    (ending : Ending) (error : Option Text) :
    (s.conclude c e ending error).history = s.history.append
      (x.job.conclude ending e.session.state.steps error (c.clock s.readings)).record := by
  unfold conclude
  simp only
  split
  · rename_i y hy
    simp only [onJob, onSlot, keep, readClock, List.getElem?_modify, hx, if_true] at hy
    obtain rfl := Option.some.inj hy
    rfl
  · rename_i hy
    simp [onJob, onSlot, keep, readClock, hx] at hy

theorem conclude_history_of_missing {e : Execution ω β} (hx : s.slots[e.slot]? = none)
    (ending : Ending) (error : Option Text) :
    (s.conclude c e ending error).history = s.history := by
  unfold conclude
  simp only
  split
  · rename_i y hy
    simp [onJob, onSlot, keep, readClock, hx] at hy
  · rfl

end Scheduler

/-! ## Shifts -/

/-- The ways in which a step changes what is shown. -/
inductive Shift (newId : Nat → Text) : Board → Deed → Board → Prop
  | accept {b : Board} {job : Job} {script : List Statement}
      (hid : job.id = newId b.entries.length) (hstatus : job.status = .queued)
      (hunfinished : job.finished = none) :
      Shift newId b (.submitted b.entries.length (.ok (newId b.entries.length)))
        { b with
          entries := b.entries ++ [⟨job, some script⟩]
          queue := b.queue ++ [b.entries.length] }
  /-- A job that may not wait is shown all the same. -/
  | refuse {b : Board} {job : Job} {script : List Statement} {e : QueueFull}
      (hid : job.id = newId b.entries.length) (hstatus : job.status = .queued)
      (hunfinished : job.finished = none) :
      Shift newId b (.submitted b.entries.length (.error e))
        { b with entries := b.entries ++ [⟨job, some script⟩] }
  | quiet {b : Board} : Shift newId b .quiet b
  | take {b : Board} {n : Nat} {rest current : List Nat} {job : Job} {script : List Statement}
      (hcurrent : current.Perm (n :: b.current)) (hqueue : b.queue = n :: rest)
      (hentry : b.entries[n]? = some ⟨job, some script⟩) :
      Shift newId b (.began n)
        { b with
          entries := b.entries.set n ⟨{ job with status := .running }, none⟩
          queue := rest, current }
  /-- The next job is not there, or its script is not. -/
  | miss {b : Board} {n : Nat} {rest : List Nat} (hqueue : b.queue = n :: rest)
      (hentry : ∀ job script, b.entries[n]? ≠ some ⟨job, some script⟩) :
      Shift newId b (.began n) { b with queue := rest }
  | finish {b : Board} {d : Deed} {n : Nat} {current : List Nat} {job : Job}
      {script : Option (List Statement)} {ending : Ending} {steps : Nat} {error : Option Text}
      {now : Timestamp} (hd : d = .ended n ∨ d = .cancelled n)
      (hcurrent : b.current.Perm (n :: current)) (hentry : b.entries[n]? = some ⟨job, script⟩) :
      Shift newId b d
        { b with
          entries := b.entries.set n ⟨job.conclude ending steps error now, script⟩
          current
          history := b.history.append (job.conclude ending steps error now).record }
  /-- A job that is executed is not there. -/
  | lose {b : Board} {d : Deed} {n : Nat} {current : List Nat}
      (hd : d = .ended n ∨ d = .cancelled n) (hcurrent : b.current.Perm (n :: current))
      (hentry : b.entries[n]? = none) : Shift newId b d { b with current }
  | escape {b : Board} {n : Nat} {current : List Nat} (hcurrent : b.current.Perm (n :: current)) :
      Shift newId b (.escaped n) { b with current }

/-- What a submission changes does not depend on what is executed. -/
theorem Shift.elsewhere {newId : Nat → Text} {b b' : Board} {n : Nat}
    {reply : Except QueueFull Text} (hstep : Shift newId b (.submitted n reply) b')
    (current : List Nat) :
    Shift newId { b with current } (.submitted n reply) { b' with current } := by
  cases hstep with
  | accept hid hstatus hunfinished => exact .accept hid hstatus hunfinished
  | refuse hid hstatus hunfinished => exact .refuse hid hstatus hunfinished
  | finish hd _ _ | lose hd _ _ => rcases hd with hd | hd <;> cases hd

/-- The board with other jobs that are executed, before and behind those of the board. -/
def Board.beside (b : Board) (before behind : List Nat) : Board :=
  { b with current := before ++ b.current ++ behind }

/-- **A step does the same whatever else is executed.** -/
theorem Shift.beside {newId : Nat → Text} {b b' : Board} (hstep : Shift newId b d b')
    (before behind : List Nat) :
    Shift newId (b.beside before behind) d (b'.beside before behind) := by
  have hmiddle {current current' : List Nat} {n : Nat} (h : current.Perm (n :: current')) :
      (before ++ current ++ behind).Perm (n :: (before ++ current' ++ behind)) :=
    ((h.append_left before).append_right behind).trans (List.perm_middle.append_right behind)
  cases hstep with
  | accept hid hstatus hunfinished => exact .accept hid hstatus hunfinished
  | refuse hid hstatus hunfinished => exact .refuse hid hstatus hunfinished
  | quiet => exact .quiet
  | take hcurrent hqueue hentry => exact .take (hmiddle hcurrent) hqueue hentry
  | miss hqueue hentry => exact .miss hqueue hentry
  | finish hd hcurrent hentry => exact .finish hd (hmiddle hcurrent) hentry
  | lose hd hcurrent hentry => exact .lose hd (hmiddle hcurrent) hentry
  | escape hcurrent => exact .escape (hmiddle hcurrent)

theorem Scheduler.submit_shift (c : Setup ω β) (s : Scheduler ω β) (source : Text) (output : ω)
    (name : Option Text) :
    Shift c.newId s.board (.submitted s.slots.length (s.submit c source output name).1)
      (s.submit c source output name).2.board := by
  have hboard := register_board c s source output name
  have hlength := length_entries s
  cases hfull : s.isFull c with
  | true =>
    rw [submit_of_full hfull, hboard, ← hlength]
    exact .refuse (congrArg c.newId hlength.symm) rfl rfl
  | false =>
    have hqueued : Scheduler.board
        { s.register c source output name with queue := s.queue ++ [s.slots.length] } =
        { s.board with
          entries := s.board.entries ++
            [⟨s.newJob c source name, some (parse c.marks source)⟩]
          queue := s.board.queue ++ [s.board.entries.length] } := by
      rw [hlength]
      exact congrArg (fun b : Board => { b with queue := s.queue ++ [s.slots.length] }) hboard
    rw [submit_of_not_full hfull, hqueued, ← hlength]
    exact .accept (congrArg c.newId hlength.symm) rfl rfl

/-- A job comes to its end, and its worker is idle or gone. -/
theorem Scheduler.conclude_shift {e : Execution ω β} {ending : Ending} {error : Option Text}
    {worker : Worker ω β} (hd : d = .ended e.slot ∨ d = .cancelled e.slot)
    (hcurrent : s.board.current = [e.slot])
    (hworker : worker = .idle ∨ worker = .absent) :
    Shift c.newId s.board d (board { s.conclude c e ending error with worker }) := by
  have hboard : board { s.conclude c e ending error with worker } =
      { entries := (s.conclude c e ending error).slots.map Slot.entry
        queue := s.board.queue, current := []
        history := (s.conclude c e ending error).history } := by
    rcases hworker with rfl | rfl
    · simp [board, current, execution?, conclude_queue]
    · simp [board, current, execution?, conclude_queue]
  rw [hboard, conclude_entries]
  change Shift c.newId s.board d
    { s.board with entries := s.board.entries.modify _ _, current := [], history := _ }
  rw [List.modify_eq_set_getElem?]
  cases hx : s.slots[e.slot]? with
  | none =>
    have hentry : s.board.entries[e.slot]? = none := by simp [board, hx]
    rw [conclude_history_of_missing hx, hentry]
    exact .lose hd (.of_eq hcurrent) hentry
  | some x =>
    have hentry : s.board.entries[e.slot]? = some ⟨x.job, x.script⟩ := by
      simp [board, hx, Slot.entry]
    rw [conclude_history hx, hentry]
    exact .finish hd (.of_eq hcurrent) hentry

theorem Scheduler.begin_shift {n : Nat} {rest : List Nat} (hidle : s.worker = .idle)
    (hqueue : s.queue = n :: rest) :
    Shift c.newId s.board (.began n) (s.begin c n rest).board := by
  have hcurrent : s.board.current = [] := by simp [board, current, execution?, hidle]
  obtain ⟨hmiss, hmissing⟩ | ⟨x, script, hx, hscript, hbegin⟩ := begin_cases c s n rest
  · rw [hmiss]
    refine .miss hqueue fun job script hentry => ?_
    obtain ⟨x, hx, hentry⟩ := slot_of_entry hentry
    have hscript : x.script = some script := congrArg Entry.script hentry
    rw [hmissing x hx] at hscript
    cases hscript
  · have hentry : s.board.entries[n]? = some ⟨x.job, some script⟩ := by
      rw [entry_of_slot hx, Slot.entry, hscript]
    have hentries : (s.onSlot n Slot.begin).slots.map Slot.entry =
        s.board.entries.modify n fun x => ⟨{ x.job with status := .running }, none⟩ :=
      onSlot_entries fun _ => rfl
    have htake : Shift c.newId s.board (.began n) _ :=
      .take (.of_eq (congrArg (n :: ·) hcurrent.symm)) hqueue hentry
    rw [hbegin]
    rw [List.modify_eq_set_getElem?, hentry] at hentries
    simp only [board, current, execution?] at htake ⊢
    rw [hentries]
    exact htake

/-- The worker executes the job that it takes. -/
theorem Scheduler.tick?_of_idle {n : Nat} {rest : List Nat} {x : Slot ω} {script : List Statement}
    (hidle : s.worker = .idle) (hqueue : s.queue = n :: rest) (hx : s.slots[n]? = some x)
    (hscript : x.script = some script) :
    ∃ t, s.tick? c = some t ∧ t.execution? = some (s.execution c n script x.output) := by
  refine ⟨s.begin c n rest, by simp [tick?, hidle, hqueue], ?_⟩
  simp [begin, hx, hscript, execution?, execution]

/-- **A turn shows only when it is the last one of its job.** -/
theorem Scheduler.follow_shift {e : Execution ω β} (he : s.execution? = some e) (turn : Turn ω β) :
    Shift c.newId s.board (deedOf e.slot turn) (s.follow c e turn).board := by
  have hcurrent : s.board.current = [e.slot] := by simp [board, current, he]
  cases turn with
  | again x =>
    have hboard : (s.follow c e (.again x)).board = { s.board with current := [e.slot] } := rfl
    rw [hboard, ← hcurrent]
    exact .quiet
  | held x =>
    have hboard : (s.follow c e (.held x)).board = { s.board with current := [e.slot] } :=
      keep_board s { e with session := x } (.held { e with session := x })
    rw [hboard, ← hcurrent]
    exact .quiet
  | ended x => exact conclude_shift (.inl rfl) hcurrent (.inl rfl)
  | escaped t x =>
    have hboard : (s.follow c e (.escaped t x)).board = { s.board with current := [] } :=
      keep_board s { e with session := x } (.dead t)
    rw [hboard]
    exact .escape (.of_eq hcurrent)

theorem Scheduler.start_board (s : Scheduler ω β) : s.start.board = s.board := by
  unfold start
  split
  · rename_i hworker
    simp [board, current, execution?, hworker]
  · rename_i trouble hworker
    simp [board, current, execution?, hworker]
  · rfl

theorem Scheduler.onDisplay_board (s : Scheduler ω β) (f : ω → ω) :
    (s.onDisplay f).board = s.board := by
  unfold onDisplay
  split
  · rename_i e hworker
    simp [board, current, execution?, hworker]
  · rfl

/-- Stopping a worker without a job changes nothing that is shown. -/
theorem Scheduler.stop_board (hs : s.execution? = none) : (s.stop c).2.board = s.board := by
  have hnone : board { s with worker := .absent } = s.board := by
    simp only [board, current, hs]
    rfl
  cases hworker : s.worker with
  | absent | idle | dead trouble => simpa [stop, hworker] using hnone
  | busy e | held e => simp [execution?, hworker] at hs

theorem Scheduler.stop_shift {e : Execution ω β} (he : s.execution? = some e) :
    Shift c.newId s.board (.cancelled e.slot) (s.stop c).2.board := by
  have hcurrent : s.board.current = [e.slot] := by simp [board, current, he]
  have hstop : (s.stop c).2 = { s.conclude c e .cancelled none with worker := .absent } := by
    cases hworker : s.worker with
    | absent | idle | dead trouble => simp [execution?, hworker] at he
    | busy e' | held e' =>
      have hsame : e' = e := by simpa [execution?, hworker] using he
      simp [stop, hworker, hsame]
  rw [hstop]
  exact conclude_shift (.inr rfl) hcurrent (.inr rfl)

/-- **Every step changes what is shown in one of the ways of `Shift`.** -/
theorem Happens.shift (hstep : Happens c s d t) : Shift c.newId s.board d t.board := by
  cases hstep with
  | submit source output name => exact Scheduler.submit_shift c s source output name
  | start =>
    rw [Scheduler.start_board]
    exact .quiet
  | dismiss hs =>
    rw [Scheduler.stop_board hs]
    exact .quiet
  | cancel he => exact Scheduler.stop_shift he
  | take hidle hqueue => exact Scheduler.begin_shift hidle hqueue
  | turn hbusy => exact Scheduler.follow_shift (by simp [Scheduler.execution?, hbusy]) _
  | late hheld hlate => exact Scheduler.follow_shift (by simp [Scheduler.execution?, hheld]) _
  | display f =>
    rw [Scheduler.onDisplay_board]
    exact .quiet

end Dialogue.Jobs
