import Dialogue.Proofs.Machine.Turn

/-!
# Calls that come back late, and reports that are refused

A turn whose timer or prompt does not come back is held. When the call comes back after all, the turn
is completed with the reply, as if it had come back at once. Of all that a turn can lead to, one thing
is final in a bad way: the line that reports a fault is refused, and nobody is told.

* `Session.woken`, `Session.answered`: what is left of a turn when its call is back;
  `Session.awaitTimer_of_back` and `Session.awaitChoice_of_back` say that a turn that is not held
  does the same;
* `Session.Late`: what a held turn can lead to;
* **`Session.refuses_of_turn`**, `Session.refuses_of_late`: a fault leaves a run only when the
  display refuses the line that reports it.
-/

namespace Dialogue.Machine

open Text

variable {ω β : Type} {h : Host ω β} {p : Program} {limit : Option Int} {x y : Session ω β}

/-! ## Calls that come back late -/

/-- What the turn of a machine leads to whose timer has come back. -/
def Session.woken (h : Host ω β) (p : Program) (x : Session ω β) : Except Trouble Unit → Turn ω β
  | .error t => x.fail h (.trouble t)
  | .ok () => x.goOn h (x.state.resumeTimer p)

/-- What the turn of a machine leads to whose prompt has come back. -/
def Session.answered (h : Host ω β) (p : Program) (x : Session ω β) :
    Except Trouble (Option Int) → Turn ω β
  | .error t => x.fail h (.trouble t)
  | .ok index => x.goOn h (x.state.resumeChoice p index)

/-- A timer that comes back at once is one that comes back late, without the wait. -/
theorem Session.awaitTimer_of_back {d : Float} {reply : Except Trouble Unit} {output : ω}
    (hd : seconds? x.state.waitMs p.waitScale = some d)
    (hsleep : h.sleep d x.output = (.back reply, output)) :
    x.awaitTimer h p = ({ x with output, log := .sleep d :: x.log }).woken h p reply := by
  cases reply with
  | error t => simp [Session.awaitTimer, Session.woken, hd, hsleep]
  | ok u => simp [Session.awaitTimer, Session.woken, hd, hsleep]

/-- A prompt that comes back at once is one that comes back late, without the wait. -/
theorem Session.awaitChoice_of_back {reply : Except Trouble (Option Int)} {output : ω}
    (hchoose : h.choose x.state.options x.output = (.back reply, output)) :
    x.awaitChoice h p =
      ({ x with output, log := .prompt x.state.options :: x.log }).answered h p reply := by
  cases reply with
  | error t => simp [Session.awaitChoice, Session.answered, hchoose]
  | ok index => simp [Session.awaitChoice, Session.answered, hchoose]

/-- What a turn leads to whose call comes back late, with whatever reply. -/
inductive Session.Late (h : Host ω β) (p : Program) (x : Session ω β) : Turn ω β → Prop
  | timer (hx : x.state.phase = .waitingTimer) (reply : Except Trouble Unit) :
      Late h p x (x.woken h p reply)
  | prompt (hx : x.state.phase = .waitingChoice) (reply : Except Trouble (Option Int)) :
      Late h p x (x.answered h p reply)

/-! ## Faults that cannot be reported -/

/-- The display refuses the line that reports a fault. -/
def Host.Refuses (h : Host ω β) (t : Trouble) : Prop :=
  ∃ f output, (h.appendLine (faultLine f) output).1 = .error t

/-- A host that takes every line and on which no prompt and no timer comes back. -/
def Host.unanswered : Host Unit Unit where
  appendLine _ u := (.ok (), u)
  choose _ u := (.pending, u)
  sleep _ u := (.pending, u)

theorem Host.not_refuses_unanswered (t : Trouble) : ¬ Host.unanswered.Refuses t := by
  rintro ⟨f, output, h⟩
  cases h

theorem Session.refuses_of_fail {f : Fault} {t : Trouble} (hx : x.fail h f = .escaped t y) :
    h.Refuses t := by
  refine ⟨f, x.output, ?_⟩
  rcases hline : h.appendLine (faultLine f) x.output with ⟨_ | _, output⟩
  · rw [Session.fail_of_error hline] at hx
    cases hx
    rfl
  · rw [Session.fail_of_ok hline] at hx
    cases hx

theorem Session.refuses_of_goOn {r : Except Fault State} {t : Trouble}
    (hx : x.goOn h r = .escaped t y) : h.Refuses t := by
  cases r with
  | error f => exact Session.refuses_of_fail hx
  | ok s => cases hx

theorem Session.refuses_of_turn {t : Trouble} (hx : x.turn h p limit = .escaped t y) :
    h.Refuses t := by
  have hturned := Session.turned h p limit x
  generalize hturn : x.turn h p limit = turn at hturned hx
  cases hturned with
  | faulted hf => exact Session.refuses_of_fail hx
  | ended | limited | stepped | woken | chosen | held => cases hx

theorem Session.refuses_of_late {t : Trouble} {turn : Turn ω β} (hlate : x.Late h p turn)
    (hx : turn = .escaped t y) : h.Refuses t := by
  cases hlate with
  | timer _ reply =>
    cases reply with
    | error e => exact Session.refuses_of_fail hx
    | ok u => exact Session.refuses_of_goOn hx
  | prompt _ reply =>
    cases reply with
    | error e => exact Session.refuses_of_fail hx
    | ok index => exact Session.refuses_of_goOn hx

end Dialogue.Machine

