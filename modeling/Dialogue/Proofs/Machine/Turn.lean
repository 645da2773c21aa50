import Dialogue.Machine.Run
import Dialogue.Proofs.Machine.Step
import Mathlib.Logic.Relation

/-!
# What a turn does, and where a run ends

A run is a chain of turns. This module says once what a turn can do, so that a property of runs is
a property of the cases of `Turned`, carried along the chain.

* `Faults`: the faults that a turn can run into, with what is left of machine and host;
* `Turned`: all that a turn can lead to; **`Session.turned`** says that it leads to nothing else;
* `Again`: one turn after which the run goes on, and `Onward`: what it goes on with;
* **`Session.run_chain`**: a run that comes to an end ends with the last turn of such a chain, and
  `Session.run_eq_of_chain` says that there is only one; `Session.run_of_chain`: such a chain is a
  run.
-/

namespace Dialogue.Machine

open Text

variable {ω β : Type} {h : Host ω β} {p : Program} {limit : Option Int} {x y z : Session ω β}

/-! ## Faults -/

/-- The turn of `x` runs into the fault `f`; `y` is what is left before the fault is reported. -/
inductive Faults (h : Host ω β) (p : Program) (limit : Option Int) (x : Session ω β) :
    Fault → Session ω β → Prop
  | step {f : Fault} {y : Session ω β} (hx : x.state.phase = .running)
      (hlimit : x.limitReached limit = false) (hstep : x.step h p = (some f, y)) :
      Faults h p limit x f y
  | tooLong (hx : x.state.phase = .waitingTimer)
      (hd : seconds? x.state.waitMs p.waitScale = none) : Faults h p limit x .waitTooLong x
  | sleep {d : Float} {t : Trouble} {output : ω} (hx : x.state.phase = .waitingTimer)
      (hd : seconds? x.state.waitMs p.waitScale = some d)
      (hsleep : h.sleep d x.output = (.back (.error t), output)) :
      Faults h p limit x (.trouble t) { x with output, log := .sleep d :: x.log }
  | prompt {t : Trouble} {output : ω} (hx : x.state.phase = .waitingChoice)
      (hchoose : h.choose x.state.options x.output = (.back (.error t), output)) :
      Faults h p limit x (.trouble t) { x with output, log := .prompt x.state.options :: x.log }
  /-- The prompt gave the number of an option that there is not. -/
  | answer {index : Option Int} {f : Fault} {output : ω} (hx : x.state.phase = .waitingChoice)
      (hchoose : h.choose x.state.options x.output = (.back (.ok index), output))
      (hindex : x.state.resumeChoice p index = .error f) :
      Faults h p limit x f { x with output, log := .prompt x.state.options :: x.log }

/-- A turn that runs into a fault has at most counted a step. -/
theorem Faults.state {f : Fault} (hf : Faults h p limit x f y) :
    y.state = x.state ∨ y.state = { x.state with steps := x.state.steps + 1 } := by
  cases hf with
  | step hx hlimit hstep =>
    have hs := Session.stepped h p x
    rw [hstep] at hs
    exact Or.inr hs.state_of_failed
  | tooLong | sleep | prompt | answer => exact Or.inl rfl

/-- Only a machine that has not halted runs into a fault. -/
theorem Faults.not_halted {f : Fault} (hf : Faults h p limit x f y) (e : Ending) :
    x.state.phase ≠ .halted e := by
  cases hf with
  | step hx | tooLong hx | sleep hx | prompt hx | answer hx => simp [hx]

/-- A fault is reported, and that is all its turn still does. -/
theorem Faults.turn_eq {f : Fault} (hf : Faults h p limit x f y) :
    x.turn h p limit = y.fail h f := by
  cases hf with
  | step hx hlimit hstep => simp [Session.turn, hx, Session.advance, hlimit, hstep]
  | tooLong hx hd => simp [Session.turn, hx, Session.awaitTimer, hd]
  | sleep hx hd hsleep => simp [Session.turn, hx, Session.awaitTimer, hd, hsleep]
  | prompt hx hchoose => simp [Session.turn, hx, Session.awaitChoice, hchoose]
  | answer hx hchoose hindex =>
    simp [Session.turn, hx, Session.awaitChoice, hchoose, Session.goOn, hindex]

/-- The line that reports a fault. -/
def faultLine (f : Fault) : Text := ofString "Error during execution: " ++ f.report

/-- The state of a machine that has noted a fault. -/
def State.noted (s : State) (f : Fault) : State := { s with error := some f.report }

/-- A fault whose line the display takes ends the run as failed. -/
theorem Session.fail_of_ok {f : Fault} {output : ω}
    (hline : h.appendLine (faultLine f) y.output = (.ok (), output)) :
    y.fail h f = .ended { y with
      state := (y.state.noted f).finish .failed, output, log := .line (faultLine f) :: y.log } := by
  unfold faultLine at *
  simp only [Session.fail, Session.say, hline]
  rfl

/-- A fault whose line the display does not take leaves the run, and the machine has not halted. -/
theorem Session.fail_of_error {f : Fault} {t : Trouble} {output : ω}
    (hline : h.appendLine (faultLine f) y.output = (.error t, output)) :
    y.fail h f = .escaped t { y with state := y.state.noted f, output } := by
  unfold faultLine at *
  simp only [Session.fail, Session.say, hline]
  rfl

theorem Session.fail_ne_again {f : Fault} (z : Session ω β) : y.fail h f ≠ .again z := by
  rcases hline : h.appendLine (faultLine f) y.output with ⟨_ | _, output⟩
  · simp [Session.fail_of_error hline]
  · simp [Session.fail_of_ok hline]

theorem Session.fail_ne_held {f : Fault} (z : Session ω β) : y.fail h f ≠ .held z := by
  rcases hline : h.appendLine (faultLine f) y.output with ⟨_ | _, output⟩
  · simp [Session.fail_of_error hline]
  · simp [Session.fail_of_ok hline]

/-! ## Turns -/

/-- What the turn of `x` leads to. -/
inductive Turned (h : Host ω β) (p : Program) (limit : Option Int) (x : Session ω β) :
    Turn ω β → Prop
  | ended {e : Ending} (hx : x.state.phase = .halted e) : Turned h p limit x (.ended x)
  /-- The step limit has been reached. -/
  | limited (hx : x.state.phase = .running) (hlimit : x.limitReached limit = true) :
      Turned h p limit x (.again { x with state := x.state.finish .stopped })
  | stepped {y : Session ω β} (hx : x.state.phase = .running)
      (hlimit : x.limitReached limit = false) (hstep : x.step h p = (none, y)) :
      Turned h p limit x (.again y)
  | woken {d : Float} {output : ω} (hx : x.state.phase = .waitingTimer)
      (hd : seconds? x.state.waitMs p.waitScale = some d)
      (hsleep : h.sleep d x.output = (.back (.ok ()), output)) :
      Turned h p limit x (.again { x with
        state := State.settle p { x.state with waitMs := 0, phase := .running }
        output, log := .sleep d :: x.log })
  | chosen {index : Option Int} {s : State} {output : ω} (hx : x.state.phase = .waitingChoice)
      (hchoose : h.choose x.state.options x.output = (.back (.ok index), output))
      (hindex : x.state.resumeChoice p index = .ok s) :
      Turned h p limit x
        (.again { x with state := s, output, log := .prompt x.state.options :: x.log })
  /-- The timer or the prompt does not come back. -/
  | held {output : ω} {event : Event}
      (hx : x.state.phase = .waitingTimer ∨ x.state.phase = .waitingChoice) :
      Turned h p limit x (.held { x with output, log := event :: x.log })
  | faulted {f : Fault} {y : Session ω β} (hf : Faults h p limit x f y) :
      Turned h p limit x (y.fail h f)

/-- **A turn leads to nothing but what `Turned` says.** -/
theorem Session.turned (h : Host ω β) (p : Program) (limit : Option Int) (x : Session ω β) :
    Turned h p limit x (x.turn h p limit) := by
  unfold Session.turn
  split
  case h_1 e hx => exact .ended hx
  case h_2 hx =>
    unfold Session.awaitTimer
    split
    · rename_i hd
      exact .faulted (.tooLong hx hd)
    · rename_i d hd
      rcases hsleep : h.sleep d x.output with ⟨_ | _, output⟩
      · rename_i answer
        cases answer with
        | error t => exact .faulted (.sleep hx hd hsleep)
        | ok u =>
          simp only [Session.goOn, State.resumeTimer, hx, if_true]
          exact .woken hx hd hsleep
      · exact .held (Or.inl hx)
  case h_3 hx =>
    unfold Session.awaitChoice
    rcases hchoose : h.choose x.state.options x.output with ⟨_ | _, output⟩
    · rename_i answer
      cases answer with
      | error t => exact .faulted (.prompt hx hchoose)
      | ok index =>
        cases hindex : x.state.resumeChoice p index with
        | error f =>
          simp only [Session.goOn, hindex]
          exact .faulted (.answer hx hchoose hindex)
        | ok s =>
          simp only [Session.goOn, hindex]
          exact .chosen hx hchoose hindex
    · exact .held (Or.inr hx)
  case h_4 hx =>
    unfold Session.advance
    split
    · rename_i hlimit
      have hstop : x.state.stop = x.state.finish .stopped := by simp [State.stop, hx]
      rw [hstop]
      exact .limited hx hlimit
    · rename_i hlimit
      have hlimit' : x.limitReached limit = false := by simpa using hlimit
      rcases hstep : x.step h p with ⟨_ | f, y⟩
      · exact .stepped hx hlimit' hstep
      · exact .faulted (.step hx hlimit' hstep)

/-- A turn that ends a run leaves a machine that has halted. -/
theorem Session.halted_of_ended (hturn : x.turn h p limit = .ended y) :
    ∃ e, y.state.phase = .halted e := by
  have ht := Session.turned h p limit x
  rw [hturn] at ht
  generalize hend : Turn.ended y = t at ht
  cases ht with
  | ended he =>
    obtain rfl := Turn.ended.inj hend
    exact ⟨_, he⟩
  | limited | stepped | woken | chosen | held => cases hend
  | @faulted f z hf =>
    rcases hline : h.appendLine (faultLine f) z.output with ⟨_ | _, output⟩
    · rw [Session.fail_of_error hline] at hend
      cases hend
    · rw [Session.fail_of_ok hline] at hend
      obtain rfl := Turn.ended.inj hend
      exact ⟨.failed, rfl⟩

/-! ## Runs -/

/-- A turn after which the run goes on. -/
def Again (h : Host ω β) (p : Program) (limit : Option Int) (x y : Session ω β) : Prop :=
  x.turn h p limit = .again y

/-- The sessions that a run goes on with after the turn of `x`. -/
inductive Onward (h : Host ω β) (p : Program) (limit : Option Int) (x : Session ω β) :
    Session ω β → Prop
  | limited (hx : x.state.phase = .running) (hlimit : x.limitReached limit = true) :
      Onward h p limit x { x with state := x.state.finish .stopped }
  | stepped {y : Session ω β} (hx : x.state.phase = .running)
      (hlimit : x.limitReached limit = false) (hstep : x.step h p = (none, y)) :
      Onward h p limit x y
  | woken {output : ω} {log : List Event} (hx : x.state.phase = .waitingTimer) :
      Onward h p limit x { x with
        state := State.settle p { x.state with waitMs := 0, phase := .running }, output, log }
  | chosen {index : Option Int} {s : State} {output : ω} {log : List Event}
      (hx : x.state.phase = .waitingChoice) (hindex : x.state.resumeChoice p index = .ok s) :
      Onward h p limit x { x with state := s, output, log }

/-- **A run goes on with nothing but what `Onward` says.** -/
theorem Again.onward (hxy : Again h p limit x y) : Onward h p limit x y := by
  have ht := Session.turned h p limit x
  rw [hxy] at ht
  generalize hturn : Turn.again y = t at ht
  cases ht with
  | ended _ | held _ => cases hturn
  | limited hx hlimit =>
    cases hturn
    exact .limited hx hlimit
  | stepped hx hlimit hstep =>
    cases hturn
    exact .stepped hx hlimit hstep
  | woken hx _ _ =>
    cases hturn
    exact .woken hx
  | chosen hx _ hindex =>
    cases hturn
    exact .chosen hx hindex
  | faulted _ => exact absurd hturn.symm (Session.fail_ne_again y)

/-- **A run that comes to an end is a chain of turns** with a last one. -/
theorem Session.run_chain : ∀ {fuel : Nat} {x : Session ω β} {t : Turn ω β},
    x.run h p limit fuel = some t →
      ∃ y, Relation.ReflTransGen (Again h p limit) x y ∧ y.turn h p limit = t ∧ ∀ z, t ≠ .again z
  | 0, x, t, ht => by simp [Session.run] at ht
  | fuel + 1, x, t, ht => by
    unfold Session.run at ht
    split at ht
    · rename_i y hy
      obtain ⟨z, hchain, hlast⟩ := Session.run_chain ht
      exact ⟨z, Relation.ReflTransGen.head hy hchain, hlast⟩
    · rename_i hlast
      obtain rfl := Option.some.inj ht
      exact ⟨x, Relation.ReflTransGen.refl, rfl, hlast⟩

/-- Turns leave no choice: of two chains, the one that cannot go on has the end of the run. -/
theorem Session.run_eq_of_chain {y : Session ω β}
    (hchain : Relation.ReflTransGen (Again h p limit) x y)
    (hlast : ∀ z, y.turn h p limit ≠ .again z) :
    ∀ {fuel : Nat} {t : Turn ω β}, x.run h p limit fuel = some t → t = y.turn h p limit := by
  induction hchain using Relation.ReflTransGen.head_induction_on with
  | refl =>
    intro fuel t ht
    cases fuel with
    | zero => simp [Session.run] at ht
    | succ fuel =>
      unfold Session.run at ht
      split at ht
      · rename_i z hz
        exact absurd hz (hlast z)
      · exact (Option.some.inj ht).symm
  | head hagain _ ih =>
    intro fuel t ht
    cases fuel with
    | zero => simp [Session.run] at ht
    | succ fuel =>
      unfold Session.run at ht
      rw [hagain] at ht
      exact ih ht

/-- **A chain of turns with a last one is a run.** -/
theorem Session.run_of_chain {t : Turn ω β} (hchain : Relation.ReflTransGen (Again h p limit) x y)
    (hturn : y.turn h p limit = t) (hlast : ∀ z, t ≠ .again z) :
    ∃ fuel, x.run h p limit fuel = some t := by
  induction hchain using Relation.ReflTransGen.head_induction_on with
  | refl =>
    refine ⟨1, ?_⟩
    rw [Session.run, hturn]
    cases t with
    | again z => exact absurd rfl (hlast z)
    | ended z | held z | escaped _ z => rfl
  | head hagain _ ih =>
    obtain ⟨fuel, hrun⟩ := ih
    refine ⟨fuel + 1, ?_⟩
    rw [Session.run, hagain]
    exact hrun

end Dialogue.Machine
