import Dialogue.Proofs.Machine.Displayable
import Dialogue.Proofs.Machine.Loop

/-!
# What can go wrong without the host

A host that does all that it is asked for leaves two ways for a run (`OysterVM.run`) to fail, and both
are limits of numbers: a number has more digits than can be read, or a wait is of more seconds than a
double can hold. All else that could fail does not: a resumption fits what the machine waits for, a
running machine has a statement, a chosen option is there, and every integer that is stored can be
displayed.

* `Host.Fitting`: the prompt gives an option that there is, or none. `Host.Fitting.turn` says what
  becomes of a machine that asks it, and `Faults.ne_waitingChoice` that no fault comes of it;
* `Host.Obliging`: no call fails, and the prompt gives an option that there is;
* `Fault.AtLimit`: the two faults. **`Faults.atLimit`** says that there are no others;
* **`run_fails_atLimit`**: how a run on an obliging host fails.
-/

namespace Dialogue.Machine

open Text Script
open Relation (ReflTransGen)

variable {p : Program}

/-! ## Obliging hosts -/

variable {ω β : Type}

/-- No call to the host fails, and a choice is of an option that there is. Calls need not come back. -/
structure Host.Obliging (h : Host ω β) : Prop where
  line : ∀ text output, (h.appendLine text output).1 = .ok ()
  choose : ∀ options output answer, (h.choose options output).1 = .back answer →
    ∃ index : Option Int, answer = .ok index ∧ ∀ i ∈ index, 0 ≤ i ∧ i < options.length
  sleep : ∀ d output t, (h.sleep d output).1 ≠ .back (.error t)
  send : ∀ b ∈ h.bridge, ∀ command game t, (b.send command game).1 ≠ .error t
  checkHas : ∀ b ∈ h.bridge, ∀ person item game t, (b.checkHas person item game).1 ≠ .error t

/-- What the prompt gives is an option that there is, or none. It need not come back. -/
def Host.Fitting (h : Host ω β) : Prop :=
  ∀ options output answer, (h.choose options output).1 = .back answer →
    ∃ index : Option Int, answer = .ok index ∧ ∀ i ∈ index, 0 ≤ i ∧ i < options.length

theorem Host.Obliging.fitting {h : Host ω β} (hh : h.Obliging) : h.Fitting := hh.choose

theorem Host.eager_obliging : (Host.eager : Host Unit β).Obliging where
  line _ _ := rfl
  choose options output answer hanswer := by
    cases options with
    | nil => exact ⟨none, by cases hanswer; rfl, nofun⟩
    | cons option rest =>
      refine ⟨some 0, by cases hanswer; rfl, fun i hi => ?_⟩
      obtain rfl := Option.some.inj hi
      exact ⟨Int.le_refl 0, by simp⟩
  sleep _ _ _ := nofun
  send _ := nofun
  checkHas _ := nofun

/-! ## Faults -/

/-- The faults at the limits of numbers, for a machine that waits for `ms` milliseconds. -/
inductive Fault.AtLimit (ms : Int) : Fault → Prop
  /-- A number has more digits than can be read. -/
  | number {e : TooManyDigits} (he : e.Reading) : AtLimit ms (.number e)
  /-- The thousandth part of the wait is above all doubles. -/
  | waitTooLong (hms : Decimal.nearest? ms.natAbs 1000 = none) : AtLimit ms .waitTooLong

variable {h : Host ω β} {limit : Option Int} {x y z : Session ω β} {st : Statement} {r : Request}
  {f : Fault}

/-- An obliging host does what a request asks for. All that can be refused is to read the marker that
its answer leads to. -/
theorem Host.Obliging.exists_number (hh : h.Obliging) (hx : Displayable x.state.vars)
    (hr : Unfulfilled h x st r f) : ∃ e, f = .number e ∧ e.Reading := by
  cases hr with
  | @line line t output hline =>
    have hok := hh.line line x.output
    rw [hline] at hok
    cases hok
  | @question b person item t game hb hcheck =>
    exact absurd (congrArg Prod.fst hcheck) (hh.checkHas b hb person item x.game t)
  | @marker person item e passed hmarker =>
    exact ⟨e, rfl, argument_refused (fun _ he => he) hx.display_refused _ _ e hmarker⟩
  | @command b c t game hb hsend =>
    exact absurd (congrArg Prod.fst hsend) (hh.send b hb c x.game t)

/-- A choice that there is can be taken. -/
theorem State.Sound.exists_resumeChoice {s : State} {index : Option Int} (hs : s.Sound p)
    (hwait : s.phase = .waitingChoice)
    (hindex : ∀ i ∈ index, 0 ≤ i ∧ i < s.options.length) :
    ∃ s', s.resumeChoice p index = .ok s' := by
  obtain ⟨offers, hoffers, -⟩ := hs.offers hwait
  unfold State.resumeChoice
  rw [hwait, hoffers]
  cases index with
  | none => exact ⟨_, rfl⟩
  | some i =>
    obtain ⟨hnonneg, hlt⟩ := hindex i rfl
    have hlen : i.toNat < offers.length := by
      simp only [State.options, hoffers, Option.getD_some, List.length_map] at hlt
      omega
    dsimp only
    rw [if_neg (Int.not_lt.mpr hnonneg), List.getElem?_eq_getElem hlen]
    exact ⟨_, rfl⟩

/-- **A prompt that fits**, once it has come back, lets the machine go on. -/
theorem Host.Fitting.turn (hh : h.Fitting) (hx : x.state.Sound p)
    (hwait : x.state.phase = .waitingChoice) (limit : Option Int) :
    (∃ index s output, h.choose x.state.options x.output = (.back (.ok index), output) ∧
      x.state.resumeChoice p index = .ok s ∧ x.turn h p limit =
        .again { x with state := s, output, log := .prompt x.state.options :: x.log }) ∨
    ∃ output, h.choose x.state.options x.output = (.pending, output) ∧
      x.turn h p limit = .held { x with output, log := .prompt x.state.options :: x.log } := by
  have hturn : x.turn h p limit = x.awaitChoice h p := by rw [Session.turn, hwait]
  rw [hturn, Session.awaitChoice]
  rcases hchoose : h.choose x.state.options x.output with ⟨answer | _, output⟩
  · obtain ⟨index, rfl, hrange⟩ := hh _ _ _ (congrArg Prod.fst hchoose)
    obtain ⟨s, hs⟩ := hx.exists_resumeChoice hwait hrange
    refine .inl ⟨index, s, output, rfl, hs, ?_⟩
    simp only [Session.goOn, hs]
  · exact .inr ⟨output, rfl, rfl⟩

/-- **Where the prompt fits, no fault comes of a choice.** -/
theorem Faults.ne_waitingChoice (hf : Faults h p limit x f y) (hh : h.Fitting)
    (hx : x.state.Sound p) : x.state.phase ≠ .waitingChoice := by
  intro hwait
  have hfail := hf.turn_eq
  rcases hh.turn hx hwait limit with ⟨index, s, output, -, -, hturn⟩ | ⟨output, -, hturn⟩
  · exact Session.fail_ne_again _ (hfail.symm.trans hturn)
  · exact Session.fail_ne_held _ (hfail.symm.trans hturn)

/-- **On an obliging host there are no faults but those at the limits of numbers.** -/
theorem Faults.atLimit (hf : Faults h p limit x f y) (hh : h.Obliging) (hx : x.state.Sound p)
    (hvars : Displayable x.state.vars) : f.AtLimit x.state.waitMs := by
  have hno := hf.ne_waitingChoice hh.fitting hx
  cases hf with
  | step hrun _ hstep =>
    obtain ⟨st, hst⟩ := hx.exists_statement hrun
    rcases (Session.fault_of_step hst hstep).2 with ⟨e, he, rfl⟩ | ⟨r, hr⟩
    · exact .number (request_refused (fun _ he => he) hvars.display_refused _ _ _ e he)
    · obtain ⟨e, rfl, he⟩ := hh.exists_number (x := x.count) hvars hr
      exact .number he
  | tooLong _ hd => exact .waitTooLong (Option.map_eq_none_iff.mp hd)
  | sleep _ _ hsleep => exact absurd (congrArg Prod.fst hsleep) (hh.sleep _ _ _)
  | prompt hwait _ | answer hwait _ _ => exact absurd hwait hno

/-- An obliging host displays the report of a fault. -/
theorem Host.Obliging.fail (hh : h.Obliging) (y : Session ω β) (f : Fault) :
    ∃ output, y.fail h f = .ended { y with
      state := (y.state.noted f).finish .failed, output, log := .line (faultLine f) :: y.log } :=
  ⟨_, Session.fail_of_ok (Prod.ext (hh.line (faultLine f) y.output) rfl)⟩

/-! ## Runs -/

/-- No round ends a machine as failed. -/
theorem chain_not_failed {output : ω} {game : β}
    (hchain : ReflTransGen (Again h p limit) (Session.fresh p output game) z) :
    z.state.phase ≠ .halted .failed := by
  intro hfailed
  cases hchain with
  | refl => rcases State.settle_halted hfailed with hend | hend <;> cases hend
  | tail hinit hlast =>
    have hsound := Transition.chain_sound (Again.chain_transitions hinit)
      (fresh_sound p output game)
    rcases hlast.ending hsound hfailed with ⟨hend, -⟩ | hend | hend <;> cases hend

/-- **A run on an obliging host fails at a limit of numbers only.** If it ends as failed, its error
reports a number with too many digits or a wait that is too long; no fault leaves it; and from its
beginning to its end the machine is sound, so that every resumption fits and every statement is
there, and all its variables can be displayed. -/
theorem run_fails_atLimit (hh : h.Obliging) {output : ω} {game : β} {fuel : Nat} {t : Turn ω β}
    (ht : (Session.fresh p output game).run h p limit fuel = some t) :
    (t.session.state.phase = .halted .failed →
      ∃ f : Fault, t.session.state.error = some f.report ∧ f.AtLimit t.session.state.waitMs) ∧
    (∀ trouble y, t ≠ .escaped trouble y) ∧
    ∀ z, ReflTransGen (Again h p limit) (Session.fresh p output game) z →
      z.state.Sound p ∧ Displayable z.state.vars := by
  have hkept : ∀ z, ReflTransGen (Again h p limit) (Session.fresh p output game) z →
      z.state.Sound p ∧ Displayable z.state.vars := by
    intro z hchain
    have hst := Again.chain_transitions hchain
    refine ⟨Transition.chain_sound hst (fresh_sound p output game), ?_⟩
    exact Transition.chain_keeps (P := fun s => Displayable s.vars)
      (fun _ _ => Transition.displayable) hst (State.initial_displayable p)
  obtain ⟨z, hchain, rfl, hlast⟩ := Session.run_chain ht
  have hnot := chain_not_failed hchain
  have hturned := Session.turned h p limit z
  generalize z.turn h p limit = t at hturned hlast
  cases hturned with
  | limited | stepped | woken | chosen => exact absurd rfl (hlast _)
  | ended _ => exact ⟨fun hfailed => absurd hfailed hnot, nofun, hkept⟩
  | held _ => exact ⟨fun hfailed => absurd hfailed hnot, nofun, hkept⟩
  | @faulted f y hf =>
    obtain ⟨output', hfail⟩ := hh.fail y f
    have hlimit := hf.atLimit hh (hkept z hchain).1 (hkept z hchain).2
    have hwait : y.state.waitMs = z.state.waitMs := by
      rcases hf.state with hy | hy <;> rw [hy]
    rw [hfail]
    exact ⟨fun _ => ⟨f, rfl, hwait ▸ hlimit⟩, nofun, hkept⟩

/-- A wait of as many milliseconds as four hundred nines say. -/
def nines : Text := List.replicate 400 '9'

/-- A script that waits for longer than a double can tell. -/
def ages : Program where
  script := [{ command := ofString "Sys_Wait", params := [{ value := nines, raw := nines }] }]
  catalog := { table := [], aliases := [] }

theorem run_fails_atLimit_ages :
    (Host.eager : Host Unit Unit).Obliging ∧ ∃ t : Turn Unit Unit,
      (Session.fresh ages () ()).run Host.eager ages none 2 = some t ∧
        t.session.state.phase = .halted .failed ∧
        ∃ f : Fault, t.session.state.error = some f.report ∧ f.AtLimit t.session.state.waitMs := by
  have hh : (Host.eager : Host Unit Unit).Obliging := Host.eager_obliging
  have hrun : ((Session.fresh ages () ()).run (Host.eager : Host Unit Unit) ages none 2).map
      (fun t => t.session.state.phase) = some (.halted .failed) := by decide +kernel
  obtain ⟨t, ht, hfailed⟩ := Option.map_eq_some_iff.mp hrun
  exact ⟨hh, t, ht, hfailed, (run_fails_atLimit hh ht).1 hfailed⟩

end Dialogue.Machine
