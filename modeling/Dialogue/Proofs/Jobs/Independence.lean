import Dialogue.Proofs.InertLine
import Dialogue.Proofs.Jobs.Ledger
import Dialogue.Proofs.Lint.KnownCommands
import Dialogue.Proofs.Machine.Extension
import Dialogue.Proofs.Machine.Steady

/-!
# Jobs do not influence each other

A job has its own script, its own machine and its own display. What it shares with the others is
the worker, the queue, the clock, the history and the game. Of these only the game is asked for
anything while a script runs, so that on a steady game a job ends as its script does when it is run
alone: whatever was submitted before it, after it or in the middle of it, and whether or not that
went well.

* `Submission`: what is submitted; `Setup.program`: what is executed of it; `Outcome`: what becomes
  of it;
* `Unstopped`: submissions come in, the worker is started, and it works, in any order;
* `Slot.Apart`, `Execution.Apart`, `Scheduler.Apart`: every job stands as if it were alone;
* `Scheduler.Apart.submit`, `begin` and `follow`: what happens leaves it so (`Unstopped.apart`);
* `Unstopped.alone`: a job ends as its script does alone; **`Unstopped.independent`**: and so it
  ends in the same way among any other jobs;
* `Setup.Insulates`: every job ends as its script does alone. `exists_swayed`: for that it is not
  enough that no answer of the game depends on what was sent to it.
-/

namespace Dialogue.Jobs

open Text Machine Time Script

open Relation (ReflTransGen)

/-! ## Submissions and their outcomes -/

/-- A script that is submitted, with the display that it is to be executed on. -/
structure Submission (ω : Type) where
  source : Text
  output : ω
  name : Option Text := none

variable {ω β : Type} {c : Setup ω β} {s t u : Scheduler ω β} {history : History} {game : β}
  {subs : List (Submission ω)} {sub : Submission ω} {n : Nat} {x : Slot ω} {e : Execution ω β}

/-- What is executed of a submission. -/
def Setup.program (c : Setup ω β) (source : Text) : Program :=
  .ofSource c.catalog c.waitScale c.marks source

/-- What has become of a job, and what it has left on its display: lines, prompts, sleeps and
commands, the latest first. -/
structure Outcome (ω : Type) where
  status : JobStatus
  steps : Nat
  error : Option Text
  output : ω
  log : List Event

/-- What a slot shows of its job's outcome. -/
def Slot.outcome (x : Slot ω) : Outcome ω where
  status := x.job.status
  steps := x.job.steps
  error := x.job.error
  output := x.output
  log := x.log

/-- The outcome of a run that has come to an end. -/
def Outcome.ofRun (ending : Ending) (y : Session ω β) : Outcome ω where
  status := .ended ending
  steps := y.state.steps
  error := y.state.error
  output := y.output
  log := y.log

/-! ## Workers that are not stopped -/

/-- Scripts are submitted, the worker is started, and what happens by itself happens, in any order.
Nobody stops the worker, and nobody else uses the displays. -/
inductive Unstopped (c : Setup ω β) (s : Scheduler ω β) :
    List (Submission ω) → Scheduler ω β → Prop
  | refl : Unstopped c s [] s
  | submit {subs : List (Submission ω)} {t : Scheduler ω β} (hst : Unstopped c s subs t)
      (sub : Submission ω) :
      Unstopped c s (subs ++ [sub]) (t.submit c sub.source sub.output sub.name).2
  | start {subs : List (Submission ω)} {t : Scheduler ω β} (hst : Unstopped c s subs t) :
      Unstopped c s subs t.start
  | tick {subs : List (Submission ω)} {t u : Scheduler ω β} (hst : Unstopped c s subs t)
      (htick : t.tick? c = some u) : Unstopped c s subs u

/-- What happens by itself may happen. -/
theorem Unstopped.settle (fuel : Nat) (hst : Unstopped c s subs t)
    (hsettle : t.settle c fuel = some u) : Unstopped c s subs u := by
  induction fuel generalizing t with
  | zero => cases hsettle
  | succ fuel ih =>
    rw [Scheduler.settle] at hsettle
    split at hsettle
    · obtain rfl := Option.some.inj hsettle
      exact hst
    · rename_i t' htick
      exact ih (hst.tick htick) hsettle

/-! ## Jobs that stand as if they were alone -/

/-- The job of the slot has been taken out of the queue and has not ended. -/
structure Slot.Begun (x : Slot ω) : Prop where
  script : x.script = none
  status : x.job.status = .running

theorem Slot.begun_begin (x : Slot ω) : x.begin.Begun := ⟨rfl, rfl⟩

/-- How the slot of a submission stands when nothing but the submission has had a say in it. -/
inductive Slot.Apart (c : Setup ω β) (game : β) (sub : Submission ω) (x : Slot ω) : Prop
  | waiting (hscript : x.script = some (parse c.marks sub.source)) (houtput : x.output = sub.output)
      (hstatus : x.job.status = .queued)
  | begun (hbegun : x.Begun)
  | ended {fuel : Nat} {y : Session ω Unit} {ending : Ending} (hscript : x.script = none)
      (hrun : (Session.fresh (c.program sub.source) sub.output ()).run (c.host.still game)
        (c.program sub.source) c.limit fuel = some (.ended y))
      (hhalted : y.state.phase = .halted ending) (houtcome : x.outcome = .ofRun ending y)

/-- The execution of a submission has come as far as some turns lead on a game that stands still. -/
structure Execution.Apart (c : Setup ω β) (game : β) (sub : Submission ω) (e : Execution ω β) :
    Prop where
  program : e.program = c.program sub.source
  chain : ReflTransGen (Again (c.host.still game) (c.program sub.source) c.limit)
    (Session.fresh (c.program sub.source) sub.output ()) e.session.forget
  called : ReflTransGen c.host.Call game e.session.game

/-- Every job stands as if it were alone. -/
structure Scheduler.Apart (c : Setup ω β) (game : β) (subs : List (Submission ω))
    (s : Scheduler ω β) : Prop where
  length_eq : s.slots.length = subs.length
  slots : ∀ (n : Nat) (sub : Submission ω) (x : Slot ω), subs[n]? = some sub →
    s.slots[n]? = some x → x.Apart c game sub
  called : ReflTransGen c.host.Call game s.game
  execution : ∀ e, s.worker = .busy e →
    ∃ sub, subs[e.slot]? = some sub ∧ e.Apart c game sub ∧
      ∀ x, s.slots[e.slot]? = some x → x.Begun

theorem Scheduler.Apart.exists_submission (ha : s.Apart c game subs) (hx : s.slots[n]? = some x) :
    ∃ sub, subs[n]? = some sub := by
  obtain ⟨hlt, -⟩ := List.getElem?_eq_some_iff.mp hx
  exact ⟨_, List.getElem?_eq_getElem (ha.length_eq ▸ hlt)⟩

theorem Scheduler.Apart.fresh (c : Setup ω β) (history : History) (game : β) :
    (.fresh history game : Scheduler ω β).Apart c game [] where
  length_eq := rfl
  slots n sub x hsub := by simp at hsub
  called := .refl
  execution e he := by cases he

/-- A slot may change to one that stands as if it were alone. -/
theorem Scheduler.Apart.slots_onSlot (ha : s.Apart c game subs) {f : Slot ω → Slot ω}
    (hf : ∀ sub x, subs[n]? = some sub → s.slots[n]? = some x → (f x).Apart c game sub) :
    ∀ (m : Nat) (sub : Submission ω) (x : Slot ω), subs[m]? = some sub →
      (s.onSlot n f).slots[m]? = some x → x.Apart c game sub := by
  intro m sub x hsub hx
  obtain ⟨y, hy, rfl⟩ := Scheduler.onSlot_slots hx
  split
  · rename_i hnm
    subst hnm
    exact hf sub y hsub hy
  · exact ha.slots m sub y hsub hy

/-! ## Submissions -/

theorem Scheduler.Apart.register (ha : s.Apart c game subs) (sub : Submission ω) :
    (s.register c sub.source sub.output sub.name).Apart c game (subs ++ [sub]) where
  length_eq := by simp [Scheduler.register, ha.length_eq]
  slots n sub' x hsub hx := by
    rw [List.getElem?_append] at hsub
    rw [Scheduler.register, List.getElem?_append, ha.length_eq] at hx
    split at hsub
    · rename_i hlt
      rw [if_pos hlt] at hx
      exact ha.slots n sub' x hsub hx
    · rename_i hlt
      rw [if_neg hlt] at hx
      obtain ⟨rfl, rfl⟩ : sub = sub' ∧ _ = x := by
        cases hn : n - subs.length with
        | zero =>
          rw [hn] at hsub hx
          exact ⟨Option.some.inj hsub, Option.some.inj hx⟩
        | succ k =>
          rw [hn] at hsub
          cases hsub
      exact .waiting rfl rfl rfl
  called := ha.called
  execution e he := by
    obtain ⟨sub', hsub, hapart, hbegun⟩ := ha.execution e he
    obtain ⟨hlt, -⟩ := List.getElem?_eq_some_iff.mp hsub
    refine ⟨sub', ?_, hapart, fun x hx => hbegun x ?_⟩
    · rw [List.getElem?_append_left hlt]
      exact hsub
    · rw [← ha.length_eq] at hlt
      rwa [Scheduler.register, List.getElem?_append_left hlt] at hx

theorem Scheduler.Apart.queue (ha : s.Apart c game subs) (queue : List Nat) :
    Apart c game subs { s with queue } where
  length_eq := ha.length_eq
  slots := ha.slots
  called := ha.called
  execution := ha.execution

/-- **A submission is entered as it is**, whether or not it may wait, and the others are left
alone. -/
theorem Scheduler.Apart.submit (ha : s.Apart c game subs) (sub : Submission ω) :
    (s.submit c sub.source sub.output sub.name).2.Apart c game (subs ++ [sub]) := by
  cases hfull : s.isFull c with
  | true =>
    rw [Scheduler.submit_of_full hfull]
    exact ha.register sub
  | false =>
    rw [Scheduler.submit_of_not_full hfull]
    exact (ha.register sub).queue _

theorem Scheduler.Apart.start (ha : s.Apart c game subs) : s.start.Apart c game subs := by
  unfold Scheduler.start
  split
  · exact ⟨ha.length_eq, ha.slots, ha.called, by simp⟩
  · exact ⟨ha.length_eq, ha.slots, ha.called, by simp⟩
  · exact ha

/-! ## The worker -/

/-- **A job is begun with what was submitted.** -/
theorem Scheduler.Apart.begin (ha : s.Apart c game subs) (n : Nat) (rest : List Nat) :
    (s.begin c n rest).Apart c game subs := by
  obtain ⟨hmiss, -⟩ | ⟨x, script, hx, hscript, hbegin⟩ := Scheduler.begin_cases c s n rest
  · rw [hmiss]
    exact ha.queue rest
  · obtain ⟨sub, hsub⟩ := ha.exists_submission hx
    rw [hbegin]
    refine ⟨?_, ?_, ha.called, fun e he => ?_⟩
    · rw [Scheduler.onSlot, List.length_modify]
      exact ha.length_eq
    · exact ha.slots_onSlot fun sub' y _ _ => .begun y.begun_begin
    · obtain rfl := Worker.busy.inj he
      refine ⟨sub, hsub, ?_, fun y hy => ?_⟩
      · -- a slot with a script waits, and what waits is what was submitted
        cases ha.slots n sub x hsub hx with
        | waiting hparse houtput _ =>
          obtain rfl := Option.some.inj (hscript.symm.trans hparse)
          rw [houtput]
          exact ⟨rfl, .refl, ha.called⟩
        | begun h => rw [h.script] at hscript; cases hscript
        | ended h => rw [h] at hscript; cases hscript
      · obtain ⟨z, -, rfl⟩ := Scheduler.onSlot_slots hy
        exact if_pos rfl ▸ z.begun_begin

/-- The session that a turn of a job leaves, on a game that stands still and on the one that there
is. -/
theorem Execution.Apart.turn (hsteady : c.host.Steady game) (he : e.Apart c game sub) :
    e.session.forget.turn (c.host.still game) (c.program sub.source) c.limit =
      (e.session.turn c.host e.program c.limit).forget ∧
    ReflTransGen c.host.Call game (e.session.turn c.host e.program c.limit).session.game := by
  rw [he.program]
  exact ⟨Session.turn_forget hsteady he.called _ _,
    he.called.trans (Session.called_turn c.host _ _ _)⟩

/-- What an execution has left behind so far is nothing but its own doing. -/
theorem Scheduler.Apart.keep (ha : s.Apart c game subs) (hbusy : s.worker = .busy e)
    {y : Session ω β} (hcalled : ReflTransGen c.host.Call game y.game) {worker : Worker ω β}
    (hworker : ∀ e', worker ≠ .busy e') :
    Apart c game subs { s.keep { e with session := y } with worker } := by
  obtain ⟨sub, -, -, hbegun⟩ := ha.execution e hbusy
  refine ⟨?_, ?_, hcalled, fun e' he' => absurd he' (hworker e')⟩
  · simp only [Scheduler.keep, Scheduler.onSlot, List.length_modify]
    exact ha.length_eq
  · exact ha.slots_onSlot fun sub' x _ hx => .begun ⟨(hbegun x hx).script, (hbegun x hx).status⟩

/-- **A turn of a job is the turn that it makes alone.** -/
theorem Scheduler.Apart.follow (hsteady : c.host.Steady game) (ha : s.Apart c game subs)
    (hbusy : s.worker = .busy e) :
    (s.follow c e (e.session.turn c.host e.program c.limit)).Apart c game subs := by
  obtain ⟨sub, hsub, he, hbegun⟩ := ha.execution e hbusy
  obtain ⟨hturn, hcalled⟩ := he.turn hsteady
  generalize e.session.turn c.host e.program c.limit = turn at hturn hcalled
  cases turn with
  | again y =>
    refine ⟨ha.length_eq, ha.slots, ha.called, fun e' he' => ?_⟩
    obtain rfl := Worker.busy.inj he'
    exact ⟨sub, hsub, ⟨he.program, he.chain.tail hturn, hcalled⟩, hbegun⟩
  | held y => exact ha.keep hbusy hcalled (by simp)
  | escaped trouble y => exact ha.keep hbusy hcalled (by simp)
  | ended y =>
    -- the turns of the job, with this last one, are the run on a game that stands still
    obtain ⟨fuel, hrun⟩ := Session.run_of_chain he.chain hturn (by simp [Turn.forget])
    obtain ⟨ending, hhalted⟩ := Session.halted_of_ended hturn
    refine ⟨?_, ?_, ?_, by simp [Scheduler.follow]⟩
    · simp only [Scheduler.follow, Scheduler.conclude_slots, Scheduler.onSlot, List.length_modify]
      exact ha.length_eq
    · have hending : y.state.phase.ending?.getD .completed = ending := by
        rw [show y.state.phase = .halted ending from hhalted]
        rfl
      simp only [Scheduler.follow, Scheduler.conclude_slots, hending]
      refine ha.slots_onSlot fun sub' x hsub' hx => ?_
      obtain rfl := Option.some.inj (hsub.symm.trans hsub')
      exact .ended (hbegun x hx).script hrun hhalted rfl
    · simp only [Scheduler.follow, Scheduler.conclude_game]
      exact hcalled

theorem Unstopped.apart (hsteady : c.host.Steady game)
    (hst : Unstopped c (.fresh history game) subs t) : t.Apart c game subs := by
  induction hst with
  | refl => exact .fresh c history game
  | submit _ sub ih => exact ih.submit sub
  | start _ ih => exact ih.start
  | tick _ htick ih =>
    obtain ⟨n, rest, -, -, rfl⟩ | ⟨e, hbusy, rfl⟩ := Scheduler.tick?_cases htick
    · exact ih.begin n rest
    · exact ih.follow hsteady hbusy

/-! ## Outcomes -/

/-- **A job ends as its script does alone.** -/
theorem Unstopped.alone {ending : Ending} (hsteady : c.host.Steady game)
    (hst : Unstopped c (.fresh history game) subs t) (hsub : subs[n]? = some sub)
    (hx : t.slots[n]? = some x) (hended : x.job.status = .ended ending) :
    ∃ (fuel : Nat) (y : Session ω β),
      (Session.fresh (c.program sub.source) sub.output game).run c.host (c.program sub.source)
          c.limit fuel = some (.ended y) ∧
        y.state.phase = .halted ending ∧ x.outcome = .ofRun ending y := by
  cases (hst.apart hsteady).slots n sub x hsub hx with
  | waiting _ _ hstatus => cases hstatus.symm.trans hended
  | begun hbegun => cases hbegun.status.symm.trans hended
  | @ended fuel z ending' _ hrun hhalted houtcome =>
    rw [← Session.forget_fresh (c.program sub.source) sub.output game,
      Session.run_forget hsteady _ _ _ .refl] at hrun
    obtain ⟨turn, hturn, hforget⟩ := Option.map_eq_some_iff.mp hrun
    cases turn with
    | again y | held y | escaped trouble y => cases hforget
    | ended y =>
      obtain rfl := Turn.ended.inj hforget
      have hstatus : x.job.status = .ended ending' := congrArg Outcome.status houtcome
      obtain rfl := JobStatus.ended.inj (hstatus.symm.trans hended)
      exact ⟨fuel, y, hturn, hhalted, houtcome⟩

/-- **Jobs do not influence each other.** On a steady game, let a worker be started and not be
stopped, and let scripts be submitted to it in any number, in any order and at any time. A job that
it has ended has the status, the steps, the error and the display that the run of its script alone
comes to, with the same host, catalog, comment marks, wait scale and step limit. So the job has the
same outcome wherever else it is submitted: before, after and between other jobs or without them,
and whatever the clock shows, however the jobs are numbered and how many of them may wait. -/
theorem Unstopped.independent {ending : Ending} (hsteady : c.host.Steady game)
    (hst : Unstopped c (.fresh history game) subs t) (hsub : subs[n]? = some sub)
    (hx : t.slots[n]? = some x) (hended : x.job.status = .ended ending) :
    (∃ (fuel : Nat) (y : Session ω β),
      (Session.fresh (c.program sub.source) sub.output game).run c.host (c.program sub.source)
          c.limit fuel = some (.ended y) ∧
        y.state.result.ending = some ending ∧ x.outcome = .ofRun ending y) ∧
    ∀ (capacity : Int) (clock : Nat → Timestamp) (newId : Nat → Text) (history' : History)
      (subs' : List (Submission ω)) (u : Scheduler ω β),
      Unstopped { c with capacity, clock, newId } (.fresh history' game) subs' u →
        ∀ (m : Nat) (sub' : Submission ω) (x' : Slot ω) (ending' : Ending),
          subs'[m]? = some sub' → sub'.source = sub.source → sub'.output = sub.output →
            u.slots[m]? = some x' → x'.job.status = .ended ending' → x'.outcome = x.outcome := by
  obtain ⟨fuel, y, hrun, hhalted, houtcome⟩ := hst.alone hsteady hsub hx hended
  refine ⟨⟨fuel, y, hrun, ?_, houtcome⟩, ?_⟩
  · rw [State.result, hhalted]
    rfl
  · intro capacity clock newId history' subs' u hsu m sub' x' ending' hsub' hsource houtput hx'
      hended'
    have hsteady' : ({ c with capacity, clock, newId } : Setup ω β).host.Steady game := hsteady
    obtain ⟨fuel', y', hrun', hhalted', houtcome'⟩ := hsu.alone hsteady' hsub' hx' hended'
    rw [hsource, houtput] at hrun'
    obtain rfl : y = y' := Turn.ended.inj (Session.run_unique hrun' hrun)
    obtain rfl := Phase.halted.inj (hhalted.symm.trans hhalted')
    exact houtcome'.trans houtcome.symm

/-! ## A name that only one of two scripts sets -/

/-- A setup with the command that rings and with a game that echoes. -/
def ringSetup : Setup Unit Echo :=
  { Setup.plain Lint.echoing 100 with catalog := Lint.ringCatalog }

/-- A script that sets a name and rings with it. -/
def naming : Submission Unit where
  source := ofString "Set_StringVar [\"who\", \"Ann\"]\nRing_Bell [\"now\", $who]"
  output := ()

/-- A script that says a name which it has not set. -/
def asking : Submission Unit where
  source := ofString "Act_Speak [$who]"
  output := ()

/-- The script that asks comes in while the other one is executed, and it ends as it does with
nothing before it. -/
theorem Unstopped.independent_asking : ∃ (t u : Scheduler Unit Echo) (x x' : Slot Unit),
    ringSetup.host.Steady {} ∧
      Unstopped ringSetup (.fresh (.memory 9 []) {}) [naming, asking] t ∧
      t.slots[1]? = some x ∧ x.job.status = .ended .completed ∧ x.log = [.line []] ∧
      t.game.sent.length = 1 ∧
      Unstopped ringSetup (.fresh (.memory 9 []) {}) [asking] u ∧
      u.slots[0]? = some x' ∧ x'.outcome = x.outcome := by
  have hsteady : ringSetup.host.Steady {} := Host.steady_of_echo rfl {}
  have hfirst : Unstopped ringSetup (.fresh (.memory 9 []) {}) [naming] _ :=
    .tick (.tick (.start (.submit .refl naming)) rfl) rfl
  have hboth : Unstopped ringSetup (.fresh (.memory 9 []) {}) [naming, asking] _ :=
    .tick (.tick (.tick (.tick (.tick (.submit hfirst asking) rfl) rfl) rfl) rfl) rfl
  have halone : Unstopped ringSetup (.fresh (.memory 9 []) {}) [asking] _ :=
    .tick (.tick (.tick (.start (.submit .refl asking)) rfl) rfl) rfl
  have hindependent := Unstopped.independent (n := 1) hsteady hboth rfl rfl
    (show _ = JobStatus.ended .completed from rfl)
  have hsame := hindependent.2 _ _ _ _ _ _ halone 0 asking _ .completed rfl rfl rfl rfl rfl
  exact ⟨_, _, _, _, hsteady, hboth, rfl, rfl, rfl, rfl, halone, rfl, hsame⟩

/-! ## Games that are not steady -/

/-- Every job that a worker has ended has the outcome that its script comes to alone, provided that
all the others have ended, too. -/
def Setup.Insulates (c : Setup ω β) (game : β) : Prop :=
  ∀ (history : History) (subs : List (Submission ω)) (t : Scheduler ω β),
    Unstopped c (.fresh history game) subs t → (∀ x ∈ t.slots, ∃ e, x.job.status = .ended e) →
    ∀ (n : Nat) (sub : Submission ω) (x : Slot ω) (ending : Ending),
      subs[n]? = some sub → t.slots[n]? = some x → x.job.status = .ended ending →
      ∃ (fuel : Nat) (y : Session ω β), (Session.fresh (c.program sub.source) sub.output game).run c.host
          (c.program sub.source) c.limit fuel = some (.ended y) ∧ x.outcome = .ofRun ending y

/-- A host whose displays take every line. -/
def TakesLines (h : Host ω β) : Prop :=
  ∀ line output, ∃ output', h.appendLine line output = (.ok (), output')

/-- A game that takes one command only, and in which nobody has anything. -/
def onceBridge : Bridge Nat where
  send _ n := (if n = 0 then .ok [] else .error { kind := [], message := [] }, n + 1)
  checkHas _ _ n := (.ok false, n)

/-- A game that takes every command, and says yes to every other question. -/
def alternatingBridge : Bridge Nat where
  send _ n := (.ok [], n)
  checkHas _ _ n := (.ok (n % 2 = 0), n + 1)

/-- A setup with the command that rings. -/
def bridgedSetup (b : Bridge Nat) : Setup Unit Nat :=
  { Setup.plain { (Host.eager : Host Unit Nat) with bridge := some b } 100 with
    catalog := Lint.ringCatalog }

/-- A script that rings. -/
def ringer : Submission Unit where
  source := ofString "Ring_Bell [\"now\", \"Ann\"]"
  output := ()

/-- A script that says something if Ann has a rose. -/
def giver : Submission Unit where
  source := ofString ("Check_Has [\"Ann\", \"rose\", \"yes\", \"no\"]\nLine_Marker [\"yes\"]\n" ++
    "Act_Speak [\"Thanks.\"]\nLine_Marker [\"no\"]")
  output := ()

theorem unswayed_once : (bridgedSetup onceBridge).host.Unswayed 0 := by
  intro b hb g g' _ person item
  obtain rfl := Option.some.inj hb
  rfl

theorem unswayed_alternating : (bridgedSetup alternatingBridge).host.Unswayed 0 := by
  intro b hb g g' hgg' person item
  obtain rfl := Option.some.inj hb
  -- a command leaves the game as it is, so that it is the same game
  have hsame : g = g' := by
    induction hgg' with
    | refl => rfl
    | left _ hb' _ ih | right _ hb' _ ih | check _ hb' _ _ ih =>
      obtain rfl := Option.some.inj hb'
      exact ih ▸ rfl
  rw [hsame]

/-- Jobs are not kept apart where the second of two ends otherwise than it does alone. -/
theorem not_insulates {c : Setup ω β} {w : Slot ω} {before ending : Ending} {y : Session ω β}
    (fuel : Nat) (hst : Unstopped c (.fresh history game) [sub, sub] t)
    (hslots : t.slots = [w, x]) (hw : w.job.status = .ended before)
    (hx : x.job.status = .ended ending)
    (hrun : (Session.fresh (c.program sub.source) sub.output game).run c.host (c.program sub.source)
      c.limit fuel = some (.ended y))
    (hother : x.outcome ≠ .ofRun ending y) : ¬ c.Insulates game := by
  intro h
  have hended : ∀ z ∈ t.slots, ∃ e, z.job.status = .ended e := by
    simp only [hslots, List.forall_mem_cons]
    exact ⟨⟨_, hw⟩, ⟨_, hx⟩, nofun⟩
  have hsecond : t.slots[1]? = some x := by rw [hslots]; rfl
  obtain ⟨fuel', y', hrun', houtcome⟩ := h _ _ _ hst hended 1 sub x ending rfl hsecond hx
  obtain rfl := Turn.ended.inj (Session.run_unique hrun' hrun)
  exact hother houtcome

/-- **That no answer depends on what was sent is not enough** to keep jobs apart, be it that all
answers are the same or that all commands are taken: a game may refuse a command because of the ones
before it, and it may answer a question because of the ones before it. -/
theorem exists_swayed :
    (∃ c : Setup Unit Nat, c.host.Unswayed 0 ∧ TakesLines c.host ∧
      (∀ b ∈ c.host.bridge, ∀ person item g, (b.checkHas person item g).1 = .ok false) ∧
      ¬ c.Insulates 0) ∧
    ∃ c : Setup Unit Nat, c.host.Unswayed 0 ∧ TakesLines c.host ∧
      (∀ b ∈ c.host.bridge, ∀ command g, (b.send command g).1 = .ok []) ∧ ¬ c.Insulates 0 := by
  have honce (b : Bridge Nat) (hb : b ∈ (bridgedSetup onceBridge).host.bridge) : onceBridge = b :=
    Option.some.inj hb
  have halternating (b : Bridge Nat) (hb : b ∈ (bridgedSetup alternatingBridge).host.bridge) :
      alternatingBridge = b := Option.some.inj hb
  refine ⟨⟨bridgedSetup onceBridge, unswayed_once, fun _ _ => ⟨_, rfl⟩, ?_, ?_⟩,
    ⟨bridgedSetup alternatingBridge, unswayed_alternating, fun _ _ => ⟨_, rfl⟩, ?_, ?_⟩⟩
  · intro b hb person item g
    exact honce b hb ▸ rfl
  · have hboth := Unstopped.settle (c := bridgedSetup onceBridge) 9
      (.submit (.submit (.start (.refl (s := .fresh (.memory 9 []) 0))) ringer) ringer) rfl
    refine not_insulates 9 hboth rfl rfl rfl rfl fun h => ?_
    cases congrArg Outcome.error h
  · intro b hb command g
    exact halternating b hb ▸ rfl
  · have hboth := Unstopped.settle (c := bridgedSetup alternatingBridge) 20
      (.submit (.submit (.start (.refl (s := .fresh (.memory 9 []) 0))) giver) giver) rfl
    refine not_insulates 9 hboth rfl rfl rfl rfl fun h => ?_
    cases congrArg Outcome.steps h

end Dialogue.Jobs
