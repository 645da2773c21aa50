import Dialogue.Proofs.Machine.Disguise
import Dialogue.Proofs.Machine.Limits
import Dialogue.Proofs.Machine.Record
import Dialogue.Proofs.Machine.Return

/-!
# Operations that fail are atomic

An operation on a machine that fails leaves the machine as it was. A step that fails has been counted,
and that is the one thing that tells the machine from one that has not tried: the parameters of a
statement are read before anything is done, a call to the host that fails comes before anything is
written, and no step looks at the count.

* `Host.Discreet`: calls that fail are not noted by the host, nor are questions noted as commands;
* `Unfinished`: what is left of a step that failed (`Session.unfinished_of_fault`);
* `resumeTimer_refused_iff`, `resumeChoice_refused_iff`: when a resumption (`resume_timer`,
  `resume_choice`) is refused; `State.Sound.kind_of_resumeChoice`: what for;
* **`failure_atomic`**: all of it, for every machine that operations lead to;
* `exists_misreported`: an index that is too long to be written in the complaint about it.
-/

namespace Dialogue.Machine

open Text

variable {ω β : Type} {h : Host ω β} {p : Program} {x y : Session ω β} {st : Statement}
  {r : Request} {f : Fault}

/-! ## What the host notes -/

/-- Of the lines and commands that the host notes itself, no call that fails adds any, and a question is
not noted as a command. -/
structure Host.Discreet (h : Host ω β) (lines : ω → List Text) (commands : β → List GameCommand) :
    Prop where
  line : ∀ text output t, (h.appendLine text output).1 = .error t →
    lines (h.appendLine text output).2 = lines output
  send : ∀ b ∈ h.bridge, ∀ command game t, (b.send command game).1 = .error t →
    commands (b.send command game).2 = commands game
  question : ∀ b ∈ h.bridge, ∀ person item game,
    commands (b.checkHas person item game).2 = commands game

variable {lines : ω → List Text} {commands : β → List GameCommand}

/-- A request that fails is not noted. -/
theorem Host.Discreet.fulfil (hh : h.Discreet lines commands)
    (hr : x.fulfil h p st r = (.error f, y)) :
    lines y.output = lines x.output ∧ commands y.game = commands x.game := by
  cases r with
  | nothing | jump _ | wait _ => cases hr
  | say line =>
    have hnoted := hh.line line x.output
    rcases hline : h.appendLine line x.output with ⟨t | _, output⟩
    · simp only [Session.fulfil, Session.say, hline] at hr
      cases hr
      exact ⟨by simpa [hline] using hnoted t, rfl⟩
    · simp [Session.fulfil, Session.say, hline] at hr
  | assign name type value =>
    simp only [Session.fulfil] at hr
    split at hr <;> cases hr
  | offer offers =>
    simp only [Session.fulfil] at hr
    split at hr <;> cases hr
  | check person item =>
    cases hb : h.bridge with
    | none => simp [Session.fulfil, hb] at hr
    | some b =>
      have hnoted := hh.question b hb person item x.game
      simp only [Session.fulfil, hb, Session.check] at hr
      split at hr
      · rename_i t game hcheck
        cases hr
        exact ⟨rfl, by simpa [hcheck] using hnoted⟩
      · rename_i passed game hcheck
        split at hr <;> cases hr
        exact ⟨rfl, by simpa [hcheck] using hnoted⟩
  | send c =>
    cases hb : h.bridge with
    | none => simp [Session.fulfil, hb] at hr
    | some b =>
      have hnoted := hh.send b hb c x.game
      rcases hsend : b.send c x.game with ⟨t | _, game⟩
      · simp only [Session.fulfil, hb, Session.send, hsend] at hr
        cases hr
        exact ⟨rfl, by simpa [hsend] using hnoted t⟩
      · simp [Session.fulfil, hb, Session.send, hsend] at hr

/-! ## Steps that fail -/

/-- The machine of a session on its host in another state. -/
def Session.on (x : Session ω β) (output : ω) (game : β) : Session ω β := { x with output, game }

/-- What is left in `y` of a step of `x` that has failed with `f`: the step has been counted. -/
structure Unfinished (h : Host ω β) (p : Program) (x : Session ω β) (f : Fault) (y : Session ω β) :
    Prop where
  /-- A call to the host has failed, or a number has more digits than can be read. -/
  cause : (∃ t, f = .trouble t) ∨ ∃ e, f = .number e ∧ maxDigits < e.digits
  state : y.state = { x.state with steps := x.state.steps + 1 }
  log : y.log = x.log
  /-- A host that does not note what fails has noted nothing. -/
  noted : ∀ lines commands, h.Discreet lines commands →
    lines y.output = lines x.output ∧ commands y.game = commands x.game
  /-- Whatever host it is on next, the machine does the same as if it had not failed. -/
  again : ∀ (h' : Host ω β) output game, (y.on output game).step h' p =
    (((x.on output game).step h' p).1, ((x.on output game).step h' p).2.count)

/-- **A step that fails has been counted and has done nothing else.** -/
theorem Session.unfinished_of_fault (hstep : x.step h p = (some f, y)) : Unfinished h p x f y := by
  obtain ⟨-, st, hst, hfailed⟩ := Session.failed_of_step hstep
  obtain ⟨hstate, hcause⟩ := Session.fault_of_step hst hstep
  have hlog := Session.log_of_fault hstep
  refine {
    cause := ?_
    state := hstate
    log := hlog
    noted := fun lines commands hh => ?_
    again := fun h' output game => ?_ }
  · rcases hcause with ⟨e, he, rfl⟩ | ⟨r, hr⟩
    · exact .inr ⟨e, rfl, request_refused_above _ _ _ _ e he⟩
    · cases hr with
      | line _ | question _ _ | command _ _ => exact .inl ⟨_, rfl⟩
      | marker passed hmarker => exact .inr ⟨_, rfl, argument_refused_above _ _ _ _ hmarker⟩
  · rcases hfailed with ⟨e, -, -, rfl⟩ | ⟨r, -, hfulfil⟩
    · exact ⟨rfl, rfl⟩
    · exact hh.fulfil (x := x.count) hfulfil
  · have hcount : y.on output game = (x.on output game).count := by
      simp only [Session.on, Session.count, hstate, hlog]
    -- what has been counted makes no difference to a step
    rw [hcount]
    exact (Disguise.counted p).step (x.on output game) h'

/-! ## Resumptions that are refused -/

theorem resumeTimer_refused_iff {s : State} :
    (∃ f, s.resumeTimer p = .error f) ↔ s.phase ≠ .waitingTimer := by
  unfold State.resumeTimer
  split <;> rename_i hwait <;> simp [hwait]

/-- A choice that is taken was waited for, and it is of an option that there is. -/
theorem fits_of_resumeChoice {s s' : State} {index : Option Int}
    (hs' : s.resumeChoice p index = .ok s') :
    s.phase = .waitingChoice ∧ ∀ i ∈ index, 0 ≤ i ∧ i < s.options.length := by
  unfold State.resumeChoice at hs'
  split at hs'
  · rename_i offers hwait hoffers
    refine ⟨hwait, fun i hi => ?_⟩
    obtain rfl := Option.mem_def.mp hi
    dsimp only at hs'
    split at hs'
    · cases hs'
    · rename_i hnonneg
      split at hs'
      · cases hs'
      · rename_i o ho
        have hlt := (List.getElem?_eq_some_iff.mp ho).1
        simp only [State.options, hoffers, Option.getD_some, List.length_map]
        omega
  · cases hs'

/-- A choice is refused when none is waited for, or when it is of an option that there is not. -/
theorem resumeChoice_refused_iff {s : State} (hs : s.Sound p) {index : Option Int} :
    (∃ f, s.resumeChoice p index = .error f) ↔
      s.phase ≠ .waitingChoice ∨ ∃ i ∈ index, i < 0 ∨ (s.options.length : Int) ≤ i := by
  constructor
  · rintro ⟨f, hf⟩
    by_cases hwait : s.phase = .waitingChoice
    · refine .inr (Decidable.byContradiction fun hno => ?_)
      have hindex : ∀ i ∈ index, 0 ≤ i ∧ i < s.options.length := by
        intro i hi
        by_cases hrange : i < 0 ∨ (s.options.length : Int) ≤ i
        · exact absurd ⟨i, hi, hrange⟩ hno
        · omega
      obtain ⟨s', hs'⟩ := hs.exists_resumeChoice hwait hindex
      rw [hs'] at hf
      cases hf
    · exact .inl hwait
  · intro hmisfit
    cases hs' : s.resumeChoice p index with
    | error f => exact ⟨f, rfl⟩
    | ok s' =>
      obtain ⟨hwait, hindex⟩ := fits_of_resumeChoice hs'
      rcases hmisfit with hphase | ⟨i, hi, hrange⟩
      · exact absurd hwait hphase
      · have hin := hindex i hi
        omega

/-- A timer that is not waited for is refused for that. -/
theorem kind_of_resumeTimer {s : State} (hf : s.resumeTimer p = .error f) :
    f.kind = ofString "VMStateError" := by
  unfold State.resumeTimer at hf
  split at hf
  · cases hf
  · cases hf
    rfl

/-- An index that no option has is refused for that, or for its own length. -/
theorem Fault.ofIndex_kind (i : Int) (count : Nat) :
    (Fault.ofIndex i count).kind = ofString "VMStateError" ∧ ¬ Unwritable i ∨
      (Fault.ofIndex i count).kind = ofString "ValueError" ∧ Unwritable i := by
  unfold Fault.ofIndex
  by_cases hi : Unwritable i
  · rw [limitedDecimal_of_unwritable hi]
    exact .inr ⟨rfl, hi⟩
  · rw [limitedDecimal_of_not_unwritable hi]
    exact .inl ⟨rfl, hi⟩

/-- **What a choice is refused for.** It does not fit the machine; but where one is waited for, an
index that is too long to be written in that complaint is refused for its length. -/
theorem State.Sound.kind_of_resumeChoice {s : State} (hs : s.Sound p) {index : Option Int}
    (hf : s.resumeChoice p index = .error f) :
    f.kind = ofString "VMStateError" ∧ (s.phase = .waitingChoice → ∀ i ∈ index, ¬ Unwritable i) ∨
      f.kind = ofString "ValueError" ∧ s.phase = .waitingChoice ∧ ∃ i ∈ index, Unwritable i := by
  unfold State.resumeChoice at hf
  by_cases hwait : s.phase = .waitingChoice
  · obtain ⟨offers, hoffers, -⟩ := hs.offers hwait
    rw [hwait, hoffers] at hf
    obtain ⟨i, rfl, rfl⟩ : ∃ i, index = some i ∧ f = .ofIndex i offers.length := by
      cases index with
      | none => cases hf
      | some i =>
        refine ⟨i, rfl, ?_⟩
        dsimp only at hf
        split at hf
        · exact (Except.error.inj hf).symm
        · split at hf
          · exact (Except.error.inj hf).symm
          · cases hf
    rcases Fault.ofIndex_kind i offers.length with ⟨hkind, hi⟩ | ⟨hkind, hi⟩
    · exact .inl ⟨hkind, fun _ j hj => Option.mem_some.mp hj ▸ hi⟩
    · exact .inr ⟨hkind, hwait, i, rfl, hi⟩
  · refine .inl ⟨?_, fun h => absurd h hwait⟩
    split at hf
    · rename_i hphase _
      exact absurd hphase hwait
    · cases hf
      rfl

/-! ## Machines that operations lead to -/

/-- **Operations that fail are atomic.** On every machine that operations lead to: a step that fails,
on whatever host, has been counted and has done nothing else, neither to the machine nor to what is
displayed and sent, and the next step does what it would have done without the failure. A wait for a
timer can be ended iff there is one, a choice can be made iff one is waited for and it is of an option
that there is, and where that is refused, nothing has changed. The fault says that the resumption does
not fit, in all cases but one: a choice is waited for, and the index, which no option has, has too
many digits to be written. -/
theorem failure_atomic (hx : Reachable p x) :
    (∀ (h : Host ω β) f y, x.step h p = (some f, y) → Unfinished h p x f y) ∧
    ((∃ f, x.state.resumeTimer p = .error f) ↔ x.state.phase ≠ .waitingTimer) ∧
    (∀ f, x.state.resumeTimer p = .error f →
      f.kind = ofString "VMStateError" ∧ x.accept (x.state.resumeTimer p) = x) ∧
    ∀ index : Option Int,
      ((∃ f, x.state.resumeChoice p index = .error f) ↔ x.state.phase ≠ .waitingChoice ∨
        ∃ i ∈ index, i < 0 ∨ (x.state.options.length : Int) ≤ i) ∧
      ∀ f, x.state.resumeChoice p index = .error f →
        x.accept (x.state.resumeChoice p index) = x ∧
        (f.kind = ofString "VMStateError" ∧
            (x.state.phase = .waitingChoice → ∀ i ∈ index, ¬ Unwritable i) ∨
          f.kind = ofString "ValueError" ∧ x.state.phase = .waitingChoice ∧
            ∃ i ∈ index, Unwritable i) := by
  refine ⟨fun h f y hstep => Session.unfinished_of_fault hstep, resumeTimer_refused_iff,
    fun f hf => ⟨kind_of_resumeTimer hf, ?_⟩, fun index =>
    ⟨resumeChoice_refused_iff hx.sound, fun f hf => ⟨?_, hx.sound.kind_of_resumeChoice hf⟩⟩⟩
  · rw [hf]
    rfl
  · rw [hf]
    rfl

/-- A display that refuses the greeting, and takes it when it is tried again after a repair. -/
theorem failure_atomic_greeting : ∃ (x y : Session Rehearsal Unit) (f : Fault),
    Reachable greeting x ∧ x.step (Host.rehearsed none) greeting = (some f, y) ∧
      y.state = { x.state with steps := 1 } ∧ y.lines = [] ∧
      ((y.on {} ()).step (Host.rehearsed none) greeting).1 = none ∧
      ((y.on {} ()).step (Host.rehearsed none) greeting).2.lines = [ofString "hi"] := by
  have hx : Reachable greeting
      (Session.fresh greeting (lossy (.these [ofString "hi"])) ()) := ⟨_, (), .refl⟩
  have hstep : (Session.fresh greeting (lossy (.these [ofString "hi"])) ()).step
      (Host.rehearsed none) greeting = (some _, _) := rfl
  have hfailed := (failure_atomic hx).1 _ _ _ hstep
  refine ⟨_, _, _, hx, hstep, hfailed.state, ?_, ?_, ?_⟩
  · rw [Session.lines, Session.record, hfailed.log]
    rfl
  · rw [hfailed.again]
    rfl
  · rw [hfailed.again]
    rfl

/-- **Not every index that no option has is reported as one.** The machine waits for a choice of its
only option, and the index has too many digits to be written in the complaint. -/
theorem exists_misreported : ∃ f : Fault,
    Reachable menu menuShown ∧ menuShown.state.phase = .waitingChoice ∧
      menuShown.state.options.length < 10 ^ maxDigits ∧
      menuShown.state.resumeChoice menu (some (10 ^ maxDigits : Nat)) = .error f ∧
      f.kind ≠ ofString "VMStateError" := by
  have hx : Reachable menu menuShown := ⟨{}, (), .single (.step _ _)⟩
  have hone : menuShown.state.options.length = 1 := rfl
  have hout : menuShown.state.options.length < 10 ^ maxDigits := by
    rw [hone]
    exact Nat.one_lt_pow (by decide) (by decide)
  -- an index with one digit too many
  have hindex : Unwritable (10 ^ maxDigits : Nat) :=
    unwritable_iff.mpr (Nat.le_of_eq (Int.natAbs_natCast _).symm)
  generalize 10 ^ maxDigits = i at hindex hout ⊢
  obtain ⟨f, hf⟩ := (resumeChoice_refused_iff hx.sound).mpr
    (.inr ⟨(i : Int), rfl, .inr (Int.ofNat_le.mpr (Nat.le_of_lt hout))⟩)
  refine ⟨f, hx, rfl, hout, hf, fun hkind => ?_⟩
  rcases hx.sound.kind_of_resumeChoice hf with ⟨-, hshort⟩ | ⟨hvalue, -⟩
  · exact hshort rfl _ rfl hindex
  · cases hvalue.symm.trans hkind

end Dialogue.Machine
