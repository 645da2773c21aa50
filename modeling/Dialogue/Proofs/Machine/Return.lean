import Dialogue.Machine.Rehearsal
import Dialogue.Proofs.Machine.Transition

/-!
# When a run returns

A fault ends a run as failed, but first it is reported, and the report is a call to the host like
any other. The run returns a result iff the display takes the line of the fault that it ran into,
if it ran into one.

* `Announced`: the error is set exactly when the run has failed; `Again.announced` carries it along
  a run, `Session.fail_of_ok` to its end;
* **`run_returns_iff`**: the exact condition under which a run that comes to an end returns;
* `run_escapes`: a display that takes no line at all makes a run fall short of it.
-/

namespace Dialogue.Machine

open Text

variable {ω β : Type} {h : Host ω β} {p : Program} {limit : Option Int} {x y : Session ω β}

/-! ## Where the error is set -/

/-- The error is set exactly when the run has failed. -/
def Announced (s : State) : Prop :=
  s.error.isSome ↔ s.phase = .halted .failed

theorem announced_of_error_none {s : State} (herror : s.error = none)
    (hphase : s.phase ≠ .halted .failed) : Announced s := by
  simp [Announced, herror, hphase]

theorem Announced.error_eq_none {s : State} (hs : Announced s)
    (hphase : s.phase ≠ .halted .failed) : s.error = none := by
  have hnot : ¬ s.error.isSome := fun hsome => hphase (hs.mp hsome)
  simpa using hnot

theorem State.announced_settle {s : State} (herror : s.error = none)
    (hphase : s.phase ≠ .halted .failed) : Announced (State.settle p s) :=
  announced_of_error_none ((State.settle_error p s).trans herror) fun hfailed =>
    (State.settle_halted hfailed).elim (by simp) hphase

theorem Stepped.announced {s t : State} (hst : Stepped p s none t) (hs : Announced s) :
    Announced t := by
  cases hst with
  | idle _ => exact hs
  | moved hrun _ _ _ =>
    have hphase : s.phase ≠ .halted .failed := by simp [hrun]
    exact State.announced_settle
      ((State.fulfil_error _ _ _).trans (hs.error_eq_none hphase))
      (State.fulfil_not_halted (s := { s with steps := s.steps + 1 }) hrun .failed)

theorem State.resumeChoice_announced {s t : State} {index : Option Int}
    (ht : s.resumeChoice p index = .ok t) (hphase : s.phase ≠ .halted .failed)
    (hs : Announced s) : Announced t := by
  have herror := hs.error_eq_none hphase
  cases State.chosen ht with
  | dismissed _ => exact announced_of_error_none herror (by simp [State.finish])
  | taken _ _ _ => exact State.announced_settle herror (by simp)

theorem Again.announced (hxy : Again h p limit x y) (hx : Announced x.state) :
    Announced y.state := by
  cases hxy.onward with
  | limited hrun _ =>
    exact announced_of_error_none (hx.error_eq_none (by simp [hrun])) (by simp [State.finish])
  | stepped hrun hlimit hstep =>
    have hst := Session.stepped h p x
    rw [hstep] at hst
    exact hst.announced hx
  | woken hwait => exact State.announced_settle (hx.error_eq_none (by simp [hwait])) (by simp)
  | chosen hwait hindex => exact State.resumeChoice_announced hindex (by simp [hwait]) hx

theorem fresh_announced (p : Program) (output : ω) (game : β) :
    Announced (Session.fresh p output game).state :=
  State.announced_settle rfl (by simp)

/-! ## The end of a run -/

/-- The run has returned: the machine has halted with an ending, which is what is reported, and an
error is reported exactly when that is a failure. -/
def Returned (t : Turn ω β) : Prop :=
  ∃ y e, t = .ended y ∧ y.state.phase = .halted e ∧ y.state.result.ending = some e ∧
    (y.state.result.error.isSome ↔ e = .failed)

theorem Announced.returned {e : Ending} (hx : Announced x.state)
    (he : x.state.phase = .halted e) : Returned (.ended x) := by
  refine ⟨x, e, rfl, he, by simp [State.result, he, Phase.ending?], Iff.trans hx ?_⟩
  simp [he]

/-- **A run that comes to an end returns iff the display takes the report of the fault**, if the run
has run into one. Timers and prompts that do not come back are left out: their runs do not end. -/
theorem run_returns_iff {output : ω} {game : β} {fuel : Nat} {t : Turn ω β}
    (ht : (Session.fresh p output game).run h p limit fuel = some t)
    (hheld : ∀ y, t ≠ .held y) :
    Returned t ↔
      ∀ z f y, Relation.ReflTransGen (Again h p limit) (Session.fresh p output game) z →
        Faults h p limit z f y → (h.appendLine (faultLine f) y.output).1 = .ok () := by
  constructor
  · rintro ⟨w, e, rfl, -, -, -⟩ z f y hchain hf
    -- the chain up to the fault is the whole run, which therefore ends with its report
    have hlast : ∀ v, z.turn h p limit ≠ .again v := by
      rw [hf.turn_eq]
      exact Session.fail_ne_again
    have hreport : Turn.ended w = y.fail h f := by
      rw [← hf.turn_eq]
      exact Session.run_eq_of_chain hchain hlast ht
    rcases hline : h.appendLine (faultLine f) y.output with ⟨t | _, output⟩
    · rw [Session.fail_of_error hline] at hreport
      cases hreport
    · rfl
  · intro hreported
    obtain ⟨z, hchain, rfl, hlast⟩ := Session.run_chain ht
    have hz : Announced z.state := by
      clear hheld hlast ht hreported
      induction hchain with
      | refl => exact fresh_announced p output game
      | tail _ hagain ih => exact hagain.announced ih
    have hturned := Session.turned h p limit z
    generalize z.turn h p limit = t at hturned hheld hlast
    cases hturned with
    | ended he => exact hz.returned he
    | limited | stepped | woken | chosen => exact absurd rfl (hlast _)
    | held _ => exact absurd rfl (hheld _)
    | @faulted f y hf =>
      have hline := hreported z f y hchain hf
      have heq : h.appendLine (faultLine f) y.output =
          (.ok (), (h.appendLine (faultLine f) y.output).2) := Prod.ext hline rfl
      rw [Session.fail_of_ok heq]
      exact ⟨_, .failed, rfl, rfl, rfl, by simp [State.result, State.finish, State.noted]⟩

/-! ## A greeting that cannot be displayed -/

/-- A script that says one line. -/
def greeting : Program where
  script := [{
    command := ofString "Act_Speak"
    params := [{ value := ofString "hi", raw := ofString "\"hi\"" }] }]
  catalog := { table := [], aliases := [] }

/-- A display that refuses some lines. -/
def lossy (refusal : Refusal) : Rehearsal where
  refusal := refusal
  complaint := { kind := ofString "RuntimeError", message := ofString "display lost" }

/-- A display that refuses the greeting but takes the report of that: the run returns. -/
theorem run_returns_iff_greeting : ∃ t : Turn Rehearsal Unit,
    (Session.fresh greeting (lossy (.these [ofString "hi"])) ()).run
        (Host.rehearsed none) greeting none 1 = some t ∧
      (∀ y, t ≠ .held y) ∧ Returned t ∧
      (Returned t ↔
        ∀ z f y, Relation.ReflTransGen (Again (Host.rehearsed none) greeting none)
            (Session.fresh greeting (lossy (.these [ofString "hi"])) ()) z →
          Faults (Host.rehearsed none) greeting none z f y →
          ((Host.rehearsed (β := Unit) none).appendLine (faultLine f) y.output).1 = .ok ()) := by
  have hrun : (Session.fresh greeting (lossy (.these [ofString "hi"])) ()).run
      (Host.rehearsed (β := Unit) none) greeting none 1 = some (.ended _) := rfl
  refine ⟨_, hrun, by simp, ⟨_, .failed, rfl, rfl, rfl, by decide⟩, ?_⟩
  exact run_returns_iff hrun (by simp)

/-- **A fault can leave the run**: a display that takes no line makes the greeting fail and refuses
the report of that too, and the run does not return. -/
theorem run_escapes : ∃ t : Turn Rehearsal Unit,
    (Session.fresh greeting (lossy .all) ()).run (Host.rehearsed none) greeting none 1 = some t ∧
      (∀ y, t ≠ .held y) ∧ ¬ Returned t := by
  refine ⟨.escaped _ _, rfl, by simp, ?_⟩
  rintro ⟨y, e, hy, -⟩
  cases hy

end Dialogue.Machine
