import Dialogue.Proofs.Machine.Turn

/-!
# Runs that are alike

A report, a wait and a choice see little of a machine: its phase, its count, what it waits for, and
the way out of the wait. They see nothing of its game. Two machines that are alike in this, on hosts
with the same display, prompt and timer, make the same turns as long as they make the same steps.

* `Likeness`: a change of states and games that reports, waits and choices do not notice;
  `Likeness.session`, `Likeness.turn`: sessions and turns changed;
* `Likeness.StepsAlike`: the steps of a session do not notice it either;
* **`Likeness.turn_eq`**, **`Likeness.run_eq`**: then its turns and runs are the same, changed.
-/

namespace Dialogue.Machine

open Text

variable {ω β β' : Type} {h : Host ω β} {h' : Host ω β'} {p p' : Program}

/-- Two hosts with the same display, prompt and timer, and a change of states and games that is
noticed by steps only, if at all. -/
structure Likeness (h : Host ω β) (h' : Host ω β') (p p' : Program) where
  state : State → State
  game : β → β'
  appendLine_eq : h'.appendLine = h.appendLine
  choose_eq : h'.choose = h.choose
  sleep_eq : h'.sleep = h.sleep
  waitScale_eq : p'.waitScale = p.waitScale
  phase_eq : ∀ s, (state s).phase = s.phase
  steps_eq : ∀ s, (state s).steps = s.steps
  waitMs_eq : ∀ s, (state s).waitMs = s.waitMs
  options_eq : ∀ s, (state s).options = s.options
  noted_eq : ∀ s f, (state s).noted f = state (s.noted f)
  finish_eq : ∀ s e, (state s).finish e = state (s.finish e)
  resumeTimer_eq : ∀ s, (state s).resumeTimer p' = (s.resumeTimer p).map state
  resumeChoice_eq : ∀ s index,
    (state s).resumeChoice p' index = (s.resumeChoice p index).map state

namespace Likeness

variable (l : Likeness h h' p p') (x : Session ω β)

/-- The changed session. -/
def session : Session ω β' :=
  { state := l.state x.state, output := x.output, game := l.game x.game, log := x.log }

/-- The turn with its session changed. -/
def turn : Turn ω β → Turn ω β'
  | .again x => .again (l.session x)
  | .ended x => .ended (l.session x)
  | .held x => .held (l.session x)
  | .escaped t x => .escaped t (l.session x)

@[simp] theorem session_state : (l.session x).state = l.state x.state := rfl

@[simp] theorem session_output : (l.session x).output = x.output := rfl

/-- The step of the changed session is the step changed. -/
def StepsAlike : Prop :=
  (l.session x).step h' p' = ((x.step h p).1, l.session (x.step h p).2)

/-! ## Reports, waits and choices -/

theorem fail (f : Fault) : (l.session x).fail h' f = l.turn (x.fail h f) := by
  rcases hline : h.appendLine (faultLine f) x.output with ⟨t | _, output⟩
  · have hline' : h'.appendLine (faultLine f) (l.session x).output = (.error t, output) := by
      rw [l.appendLine_eq]
      exact hline
    rw [Session.fail_of_error hline, Session.fail_of_error hline', session_state, l.noted_eq]
    rfl
  · have hline' : h'.appendLine (faultLine f) (l.session x).output = (.ok (), output) := by
      rw [l.appendLine_eq]
      exact hline
    rw [Session.fail_of_ok hline, Session.fail_of_ok hline', session_state, l.noted_eq, l.finish_eq]
    rfl

theorem goOn (r : Except Fault State) :
    (l.session x).goOn h' (r.map l.state) = l.turn (x.goOn h r) := by
  cases r with
  | error f => exact l.fail x f
  | ok s => rfl

theorem awaitTimer : (l.session x).awaitTimer h' p' = l.turn (x.awaitTimer h p) := by
  unfold Session.awaitTimer
  rw [session_state, session_output, l.waitMs_eq, l.waitScale_eq, l.sleep_eq]
  cases seconds? x.state.waitMs p.waitScale with
  | none => exact l.fail x .waitTooLong
  | some d =>
    rcases hsleep : h.sleep d x.output with ⟨(t | u) | _, output⟩ <;> simp only [hsleep]
    · exact l.fail { x with output, log := .sleep d :: x.log } (.trouble t)
    · rw [l.resumeTimer_eq]
      exact l.goOn { x with output, log := .sleep d :: x.log } (x.state.resumeTimer p)
    · rfl

theorem awaitChoice : (l.session x).awaitChoice h' p' = l.turn (x.awaitChoice h p) := by
  unfold Session.awaitChoice
  rw [session_state, session_output, l.options_eq, l.choose_eq]
  rcases h.choose x.state.options x.output with ⟨(t | index) | _, output⟩
  · exact l.fail { x with output, log := .prompt x.state.options :: x.log } (.trouble t)
  · dsimp only
    rw [l.resumeChoice_eq]
    exact l.goOn { x with output, log := .prompt x.state.options :: x.log }
      (x.state.resumeChoice p index)
  · rfl

theorem stop (s : State) : (l.state s).stop = l.state s.stop := by
  unfold State.stop
  rw [l.phase_eq, l.finish_eq]
  split <;> rfl

/-! ## Turns and runs -/

variable {x} {limit : Option Int}

theorem advance (hstep : l.StepsAlike x) :
    (l.session x).advance h' p' limit = l.turn (x.advance h p limit) := by
  have hlimit : (l.session x).limitReached limit = x.limitReached limit := by
    unfold Session.limitReached
    rw [session_state, l.steps_eq]
  unfold Session.advance
  rw [hlimit, hstep, session_state, l.stop]
  split
  · rfl
  · rcases x.step h p with ⟨_ | f, y⟩
    · rfl
    · exact l.fail y f

/-- **Where the steps are alike, so are the turns.** -/
theorem turn_eq (hstep : l.StepsAlike x) :
    (l.session x).turn h' p' limit = l.turn (x.turn h p limit) := by
  unfold Session.turn
  rw [session_state, l.phase_eq]
  cases x.state.phase with
  | halted e => rfl
  | waitingTimer => exact l.awaitTimer x
  | waitingChoice => exact l.awaitChoice x
  | running => exact l.advance hstep

/-- **And so are the runs**, if the steps are alike wherever the run gets to. -/
theorem run_eq {P : Session ω β → Prop} (hstep : ∀ x, P x → l.StepsAlike x)
    (hkeep : ∀ x y, P x → Again h p limit x y → P y) (fuel : Nat) (hx : P x) :
    (l.session x).run h' p' limit fuel = (x.run h p limit fuel).map l.turn := by
  induction fuel generalizing x with
  | zero => rfl
  | succ fuel ih =>
    rw [Session.run, Session.run, l.turn_eq (hstep x hx)]
    cases hturn : x.turn h p limit with
    | again y => exact ih (hkeep x y hx hturn)
    | ended y | held y | escaped t y => rfl

end Likeness

end Dialogue.Machine
