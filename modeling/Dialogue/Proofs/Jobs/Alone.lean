import Dialogue.Proofs.Jobs.Board
import Dialogue.Proofs.Machine.StepLimit

/-!
# A job that has the worker to itself

A scheduler with one job and a worker that is about to take it goes on by itself: the job is begun,
its machine makes its turns, and when the run has ended so has the job. So the step limit of a setup
bounds the job as it bounds the run.

* `Scheduler.Ticks`: what happens by itself, any number of times; `Scheduler.exists_settle`: the
  scheduler settles where nothing more does;
* `Scheduler.ticks_of_chain`, `Scheduler.chain_of_ticks`: while a job is executed, these are the
  rounds of its run;
* `Scheduler.Awaits`: the worker is about to take the only job;
* `Scheduler.Exceeds`: the job would count more statements than a limit says, were there none;
* **`Scheduler.Awaits.settles`**: how the job ends under a limit.
-/

namespace Dialogue.Jobs

open Text Script Machine

open Relation (ReflTransGen)

variable {ω β : Type} {c : Setup ω β} {s t u : Scheduler ω β} {e e' : Execution ω β} {x : Slot ω}
  {script : List Statement} {m : Nat}

namespace Scheduler

/-! ## What happens by itself -/

/-- From `s` it comes to `t` by itself. -/
def Ticks (c : Setup ω β) : Scheduler ω β → Scheduler ω β → Prop :=
  ReflTransGen fun s t => s.tick? c = some t

/-- **Where nothing more happens by itself, the scheduler has settled.** -/
theorem exists_settle (hst : Ticks c s t) (ht : t.tick? c = none) :
    ∃ fuel, s.settle c fuel = some t := by
  induction hst using ReflTransGen.head_induction_on with
  | refl => exact ⟨1, by simp [settle, ht]⟩
  | head htick _ ih =>
    obtain ⟨fuel, hsettle⟩ := ih
    exact ⟨fuel + 1, by simp only [settle, htick, hsettle]⟩

/-- The rounds of a run happen by themselves. -/
theorem ticks_of_chain {y : Session ω β} (hbusy : s.worker = .busy e)
    (hchain : ReflTransGen (Again c.host e.program c.limit) e.session y) :
    Ticks c s { s with worker := .busy { e with session := y } } := by
  induction hchain with
  | refl =>
    have hsame : { s with worker := .busy { e with session := e.session } } = s := by rw [← hbusy]
    rw [hsame]
    exact .refl
  | tail _ hround ih =>
    refine ih.tail ?_
    simp only [tick?, follow]
    rw [hround]

/-- The last round of a run ends the job. -/
theorem tick_of_ended {y : Session ω β} {ending : Ending} (hbusy : s.worker = .busy e)
    (hturn : e.session.turn c.host e.program c.limit = .ended y)
    (hy : y.state.phase = .halted ending) : s.tick? c =
      some { s.conclude c { e with session := y } ending y.state.error with worker := .idle } := by
  have hending : y.state.phase.ending?.getD .completed = ending := by rw [hy]; rfl
  simp only [tick?, hbusy, hturn, follow, hending]

/-- **The job that is executed comes to its end by itself**, as its run does. -/
theorem exists_ticks_of_loop {xs : List (Session ω β)} {y : Session ω β} {ending : Ending}
    (hqueue : s.queue = []) (hbusy : s.worker = .busy e)
    (hl : Loop c.host e.program c.limit e.session xs (.ended y))
    (hy : y.state.phase = .halted ending) :
    ∃ t, Ticks c s t ∧ t.tick? c = none ∧ t.slots = (s.onSlot e.slot fun x =>
      x.conclude { e with session := y } ending y.state.error (c.clock s.readings)).slots := by
  obtain ⟨z, hchain, hlast, -⟩ := Session.run_chain hl.run_eq
  have hrounds := ticks_of_chain hbusy hchain
  have hend := tick_of_ended (c := c) (e := { e with session := z })
    (s := { s with worker := .busy { e with session := z } }) rfl hlast hy
  refine ⟨_, hrounds.tail hend, ?_, conclude_slots _ _ _ _⟩
  simp [tick?, conclude_queue, hqueue]

/-- The worker executes what is left of `e`, if anything, and no job waits. -/
structure Pursues (c : Setup ω β) (e : Execution ω β) (s : Scheduler ω β) : Prop where
  queue : s.queue = []
  busy : ∀ e', s.worker = .busy e' → e'.program = e.program ∧
    ReflTransGen (Again c.host e.program c.limit) e.session e'.session

theorem Pursues.tick (hs : Pursues c e s) (htick : s.tick? c = some t) : Pursues c e t := by
  obtain ⟨n, rest, -, hqueue, -⟩ | ⟨e', hbusy, rfl⟩ := tick?_cases htick
  · rw [hs.queue] at hqueue
    cases hqueue
  · obtain ⟨hprogram, hchain⟩ := hs.busy e' hbusy
    cases hturn : e'.session.turn c.host e'.program c.limit with
    | again y =>
      refine ⟨hs.queue, fun e'' hbusy => ?_⟩
      obtain rfl := Worker.busy.inj hbusy
      rw [hprogram] at hturn
      exact ⟨hprogram, hchain.tail hturn⟩
    | ended y => exact ⟨(conclude_queue s _ _ _).trans hs.queue, nofun⟩
    | held y | escaped trouble y => exact ⟨hs.queue, nofun⟩

/-- **What happens by itself while a job is executed** are the rounds of its run. -/
theorem chain_of_ticks (hqueue : s.queue = []) (hbusy : s.worker = .busy e) (hst : Ticks c s t) :
    Pursues c e t := by
  induction hst with
  | refl =>
    refine ⟨hqueue, fun e' hbusy' => ?_⟩
    obtain rfl := Worker.busy.inj (hbusy.symm.trans hbusy')
    exact ⟨rfl, .refl⟩
  | tail _ htick ih => exact ih.tick htick

/-! ## The only job -/

/-- The worker is about to take the only job, which has the slot `x` with this script. -/
structure Awaits (s : Scheduler ω β) (x : Slot ω) (script : List Statement) : Prop where
  worker : s.worker = .idle
  queue : s.queue = [0]
  slots : s.slots = [x]
  script : x.script = some script

/-- Without a limit, the job that is executed would come to count more than `m` statements. -/
def Exceeds (c : Setup ω β) (s : Scheduler ω β) (m : Nat) : Prop :=
  ∃ t e, Ticks { c with limit := none } s t ∧ t.worker = .busy e ∧
    m < (e.session.turn c.host e.program none).session.state.steps

namespace Awaits

/-- The first job that is submitted is the only one. -/
theorem submit (hworker : s.worker = .idle) (hqueue : s.queue = []) (hslots : s.slots = [])
    (hfull : s.isFull c = false) (source : Text) (output : ω) (name : Option Text) :
    ∃ x, (s.submit c source output name).2.Awaits x (parse c.marks source) ∧ x.output = output := by
  rw [submit_of_not_full hfull]
  refine ⟨{ job := s.newJob c source name, script := some (parse c.marks source), output }, ?_, rfl⟩
  exact ⟨hworker, by simp [hqueue, hslots], by simp [register, hslots], rfl⟩

/-- The job is begun. -/
theorem tick (ha : s.Awaits x script) (c : Setup ω β) :
    ∃ t, s.tick? c = some t ∧ t.worker = .busy (s.execution c 0 script x.output) ∧
      t.queue = [] ∧ t.slots = [x.begin] := by
  refine ⟨s.begin c 0 [], by simp [tick?, ha.worker, ha.queue], ?_⟩
  have hx : s.slots[0]? = some x := by simp [ha.slots]
  obtain ⟨-, hmissing⟩ | ⟨y, script', hy, hscript, hbegin⟩ := begin_cases c s 0 []
  · have hnone := hmissing x hx
    rw [ha.script] at hnone
    cases hnone
  · obtain rfl := Option.some.inj (hx.symm.trans hy)
    obtain rfl := Option.some.inj (ha.script.symm.trans hscript)
    rw [hbegin]
    exact ⟨rfl, rfl, by simp [onSlot, ha.slots]⟩

/-- **The job would count more than a limit says** iff its run has a statement left when it has
begun as many. -/
theorem exceeds_iff (ha : s.Awaits x script) {p : Program}
    (hp : (s.execution c 0 script x.output).program = p) : s.Exceeds c m ↔
      ∃ z, ReflTransGen (Again c.host p none) (Session.fresh p x.output s.game) z ∧
        z.state.phase = .running ∧ z.state.pc < p.script.length ∧ z.state.steps = m := by
  subst hp
  have hsteps := fresh_steps (s.execution c 0 script x.output).program x.output s.game
  rw [← Machine.exceeds_iff (fresh_sound _ _ _) (by omega)]
  obtain ⟨t, htick, hbusy, hqueue, -⟩ := ha.tick { c with limit := none }
  constructor
  · rintro ⟨u, e, hsu, hbusy', hlt⟩
    rcases ReflTransGen.cases_head hsu with rfl | ⟨t', htick', htu⟩
    · rw [ha.worker] at hbusy'
      cases hbusy'
    · obtain rfl := Option.some.inj (htick.symm.trans htick')
      obtain ⟨hprogram, hchain⟩ := (chain_of_ticks hqueue hbusy htu).busy e hbusy'
      rw [hprogram] at hlt
      exact ⟨e.session, hchain, hlt⟩
  · rintro ⟨y, hchain, hlt⟩
    exact ⟨_, _, .head htick (ticks_of_chain hbusy hchain), rfl, hlt⟩

/-- **The job ends as its run does.** -/
theorem settles_of_loop (ha : s.Awaits x script) {p : Program} {xs : List (Session ω β)}
    {y : Session ω β} {ending : Ending} (hp : (s.execution c 0 script x.output).program = p)
    (hl : Loop c.host p c.limit (Session.fresh p x.output s.game) xs (.ended y))
    (hy : y.state.phase = .halted ending) :
    ∃ (fuel : Nat) (t : Scheduler ω β) (slot : Slot ω), s.settle c fuel = some t ∧
      t.slots = [slot] ∧ slot.job.status = .ended ending ∧ slot.job.steps = y.state.steps := by
  subst hp
  obtain ⟨t, htick, hbusy, hqueue, hslots⟩ := ha.tick c
  obtain ⟨u, htu, hsettled, hu⟩ := exists_ticks_of_loop hqueue hbusy hl hy
  obtain ⟨fuel, hsettle⟩ := exists_settle (.head htick htu) hsettled
  refine ⟨fuel, u, x.begin.conclude { s.execution c 0 script x.output with session := y } ending
    y.state.error (c.clock t.readings), hsettle, ?_, rfl, rfl⟩
  rw [hu]
  simp [onSlot, hslots, execution]

/-- **A step limit bounds the job.** On a host that attends to it and displays every line, the job
comes to an end of its own, having begun no more than `m` statements, and it is stopped iff it would
have begun more. -/
theorem settles {P : ω → Prop} (ha : s.Awaits x script) (hlimit : c.limit = some (m : Int))
    (hh : c.host.Attends P) (hline : ∀ trouble, ¬ c.host.Refuses trouble) (hx : P x.output) :
    ∃ (fuel : Nat) (t : Scheduler ω β) (slot : Slot ω) (ending : Ending),
      s.settle c fuel = some t ∧ t.slots = [slot] ∧ slot.job.status = .ended ending ∧
      slot.job.steps ≤ m ∧ (ending = .stopped ↔ s.Exceeds c m) ∧
      (ending = .stopped → slot.job.steps = m) := by
  generalize hp : (s.execution c 0 script x.output).program = p
  have hfresh := fresh_sound p x.output s.game
  have hle : (Session.fresh p x.output s.game).state.steps ≤ m := by
    rw [fresh_steps]
    exact Nat.zero_le m
  obtain ⟨xs, turn, hl, -⟩ := (drains_limited c.host p m).exists_loop hfresh
  obtain ⟨y, ending, rfl, hy⟩ := hl.exists_ended hh hline hx
  have hstopped := hl.stopped_iff hfresh (fresh_not_stopped p x.output s.game) hle
  obtain ⟨fuel, t, slot, hsettle, hslots, hstatus, hsteps⟩ :=
    ha.settles_of_loop hp (hlimit ▸ hl) hy
  refine ⟨fuel, t, slot, ending, hsettle, hslots, hstatus, ?_, ?_, ?_⟩
  · rw [hsteps]
    exact (hl.steps_le hfresh hle).2.2
  · rw [ha.exceeds_iff hp, ← hstopped]
    simp [Turn.session, hy]
  · rintro rfl
    obtain ⟨z, hchain, hrun, -, hcount⟩ := hstopped.mp hy
    rw [hsteps, Turn.ended.inj (hl.of_reached hfresh hchain hrun hcount)]
    exact hcount

end Awaits

end Scheduler

end Dialogue.Jobs
