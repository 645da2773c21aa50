import Dialogue.Machine.Rehearsal
import Dialogue.Proofs.Machine.Labels
import Dialogue.Proofs.Machine.Transition

/-!
# The invariant of a machine

One invariant ties the place of a machine, what it is about, what it waits for and what it has
stored. It holds at the beginning and is kept by every transition:

* `WellStored`: variables under their own names, with values of their types;
* `State.Sound`: the invariant; `Transition.sound` is the step, `Reachable.sound` the induction;
* `Transition.eq_of_halted`: a halted machine does not change any more, and `Operates.eq_of_halted`
  says so of the whole session: not even its host is called;
* **`reachable_invariant`**: all of it together, with the labels.
-/

namespace Dialogue.Machine

open Text Script

/-! ## What is stored -/

/-- Every variable is stored under its own name, which is not empty, with a value of its type. -/
def WellStored (vars : Table Variable) : Prop :=
  ∀ name v, vars.get? name = some v → name ≠ [] ∧ v.name = name ∧ valueType v.value = v.type

theorem wellStored_nil : WellStored [] := by
  intro name v hv
  simp [Table.get?_nil] at hv

theorem WellStored.put {vars : Table Variable} (hvars : WellStored vars) {v : Variable}
    (hname : v.name ≠ []) (htype : valueType v.value = v.type) :
    WellStored (vars.put v.name v) := by
  intro name w hw
  rw [Table.get?_put] at hw
  split at hw
  · rename_i heq
    obtain rfl := Option.some.inj hw
    exact ⟨heq ▸ hname, heq, htype⟩
  · exact hvars name w hw

/-! ## The invariant -/

/-- What a prompt offers: one to three sound options. -/
def SoundOffers (offers : List Offer) : Prop :=
  1 ≤ offers.length ∧ offers.length ≤ 3 ∧ ∀ o ∈ offers, o.Sound

/-- The invariant of a machine that carries out `p`. -/
structure State.Sound (p : Program) (s : State) : Prop where
  pc_le : s.pc ≤ p.script.length
  /-- A running machine has a statement to carry out. -/
  pc_lt : s.phase = .running → s.pc < p.script.length
  pc_eq : s.phase = .halted .completed → s.pc = p.script.length
  offers : s.phase = .waitingChoice → ∃ offers, s.offers = some offers ∧ SoundOffers offers
  wait_nonneg : 0 ≤ s.waitMs
  vars : WellStored s.vars

variable {p : Program}

namespace State

/-- Settling brings a machine that is on its way to a statement, or past the last one, to a sound
state. -/
theorem settle_sound {s : State} (hpc : s.pc ≤ p.script.length)
    (hphase : s.phase ≠ .halted .completed)
    (hoffers : s.phase = .waitingChoice → ∃ offers, s.offers = some offers ∧ SoundOffers offers)
    (hwait : 0 ≤ s.waitMs) (hvars : WellStored s.vars) : (settle p s).Sound p := by
  unfold settle
  split
  · rename_i hend
    exact {
      pc_le := hpc
      pc_lt := fun h => by simp [finish] at h
      pc_eq := fun _ => Nat.le_antisymm hpc hend.2
      offers := fun h => by simp [finish] at h
      wait_nonneg := hwait
      vars := hvars }
  · rename_i hgo
    exact {
      pc_le := hpc
      pc_lt := fun h => Nat.lt_of_not_le fun hle => hgo ⟨h, hle⟩
      pc_eq := fun h => absurd h hphase
      offers := hoffers
      wait_nonneg := hwait
      vars := hvars }

theorem initial_sound (p : Program) : (initial p).Sound p :=
  settle_sound (Nat.zero_le _) (by simp) (by simp) (Int.le_refl 0) wellStored_nil

/-- A machine that is ended from outside may be anywhere. -/
theorem finish_sound {s : State} {e : Ending} (hpc : s.pc ≤ p.script.length) (he : e ≠ .completed)
    (hwait : 0 ≤ s.waitMs) (hvars : WellStored s.vars) : (s.finish e).Sound p where
  pc_le := hpc
  pc_lt := fun h => by simp [finish] at h
  pc_eq := fun h => absurd (by simpa [finish] using h) he
  offers := fun h => by simp [finish] at h
  wait_nonneg := hwait
  vars := hvars

/-! ### Requests -/

variable {s : State} {line : Int} {r : Request} {vars : Table Variable} {st : Statement}

theorem fulfil_offers (hr : r.Sound vars st) (hs : s.phase = .running)
    (hphase : (s.fulfil line r).phase = .waitingChoice) :
    ∃ offers, (s.fulfil line r).offers = some offers ∧ SoundOffers offers := by
  unfold fulfil at hphase ⊢
  split at hphase
  · split at hphase <;> simp [hs] at hphase
  · simp at hphase
  · rename_i offers
    split at hphase
    · simp [hs] at hphase
    · rename_i hne
      rw [if_neg hne]
      refine ⟨offers, rfl, ?_, hr⟩
      exact List.length_pos_iff.mpr (by simpa using hne)
  · simp [hs] at hphase

theorem fulfil_wait_nonneg (hr : r.Sound vars st) (hs : 0 ≤ s.waitMs) : 0 ≤ (s.fulfil line r).waitMs := by
  unfold fulfil
  split
  · split <;> exact hs
  · exact hr
  · split <;> exact hs
  · exact hs

theorem fulfil_wellStored (hr : r.Sound vars st) (hs : WellStored s.vars) :
    WellStored (s.fulfil line r).vars := by
  unfold fulfil
  split
  · rename_i name type value
    split
    · exact hs
    · rename_i hne
      exact hs.put (v := { name, type, value, line }) (by simpa using hne) hr.1
  · exact hs
  · split <;> exact hs
  · exact hs

end State

/-! ## Transitions keep the invariant -/

theorem Stepped.sound {s t : State} {f : Option Fault} (hst : Stepped p s f t) (hs : s.Sound p) :
    t.Sound p := by
  cases hst with
  | idle _ => exact hs
  | failed _ _ => exact ⟨hs.pc_le, hs.pc_lt, hs.pc_eq, hs.offers, hs.wait_nonneg, hs.vars⟩
  | @moved st bridged r target hrun hst hr htarget =>
    have hsound := request_sound hr
    have hnext : s.pc + 1 ≤ p.script.length := (List.getElem?_eq_some_iff.mp hst).1
    have hpc : target.getD (s.pc + 1) ≤ p.script.length := by
      cases target with
      | none => exact hnext
      | some i =>
        obtain ⟨m, hm⟩ := htarget i rfl
        rw [p.labels_eq] at hm
        exact Nat.le_of_lt (lt_length_of_get?_labels hm)
    let counted : State := { s with steps := s.steps + 1 }
    exact State.settle_sound hpc
      (State.fulfil_not_halted (s := counted) (r := r) hrun _)
      (State.fulfil_offers (s := counted) hsound hrun)
      (State.fulfil_wait_nonneg (s := counted) hsound hs.wait_nonneg)
      (State.fulfil_wellStored (s := counted) hsound hs.vars)

/-- An option leads to a line marker or to where the machine is. -/
theorem State.target_le {s : State} (hs : s.pc ≤ p.script.length) (o : Offer) :
    s.target p o ≤ p.script.length := by
  unfold State.target
  split
  · exact hs
  · rename_i m _
    cases hm : p.labels.get? m with
    | none => exact hs
    | some i =>
      rw [p.labels_eq] at hm
      exact Nat.le_of_lt (lt_length_of_get?_labels hm)

theorem State.Sound.resumeChoice {s t : State} {index : Option Int} (hs : s.Sound p)
    (ht : s.resumeChoice p index = .ok t) : t.Sound p := by
  cases State.chosen ht with
  | dismissed _ => exact State.finish_sound hs.pc_le (by simp) hs.wait_nonneg hs.vars
  | taken _ _ _ =>
    exact State.settle_sound (State.target_le hs.pc_le _) (by simp) (by simp) hs.wait_nonneg hs.vars

/-- **Every transition keeps the invariant.** -/
theorem Transition.sound {s t : State} (hst : Transition p s t) (hs : s.Sound p) : t.Sound p := by
  cases hst with
  | step hstep => exact hstep.sound hs
  | wake _ => exact State.settle_sound hs.pc_le (by simp) (by simp) (Int.le_refl 0) hs.vars
  | choose ht => exact hs.resumeChoice ht
  | finish _ he => exact State.finish_sound hs.pc_le he hs.wait_nonneg hs.vars
  | note _ => exact ⟨hs.pc_le, hs.pc_lt, hs.pc_eq, hs.offers, hs.wait_nonneg, hs.vars⟩

/-! ## Halted machines -/

variable {ω β : Type} {x y : Session ω β}

theorem Session.turn_of_halted {e : Ending} (hx : x.state.phase = .halted e) (h : Host ω β)
    (limit : Option Int) : x.turn h p limit = .ended x := by
  simp [Session.turn, hx]

theorem Session.run_of_halted {e : Ending} (hx : x.state.phase = .halted e) {h : Host ω β}
    {limit : Option Int} {fuel : Nat} {t : Turn ω β} (ht : x.run h p limit fuel = some t) :
    t = .ended x := by
  have hlast : ∀ z, x.turn h p limit ≠ .again z := by
    intro z
    simp [Session.turn_of_halted hx]
  rw [Session.run_eq_of_chain Relation.ReflTransGen.refl hlast ht]
  exact Session.turn_of_halted hx h limit

/-- **A halted machine and its host are left as they are by every operation.** -/
theorem Operates.eq_of_halted {e : Ending} (hx : x.state.phase = .halted e)
    (hxy : Operates p x y) : y = x := by
  cases hxy with
  | step h => simp [Session.step, hx]
  | resumeTimer => simp [State.resumeTimer, hx, Session.accept]
  | resumeChoice index => simp [State.resumeChoice, hx, Session.accept]
  | stop => simp [State.stop, hx]
  | turn h limit => rw [Session.turn_of_halted hx, Turn.session]
  | run ht => rw [Session.run_of_halted hx ht, Turn.session]
  | cancel _ hne => exact absurd hx (hne e)

/-! ## Reachable states -/

theorem Reachable.sound (hx : Reachable p x) : x.state.Sound p :=
  hx.induct (State.initial_sound p) fun _ _ => Transition.sound

/-- What is reported of a machine: it is said to be running until it is said to have halted. -/
theorem Phase.statusName_eq_running_iff (phase : Phase) :
    phase.statusName = ofString "running" ↔ phase.name ≠ ofString "halted" := by
  cases phase with
  | running | waitingTimer | waitingChoice => decide
  | halted e => cases e <;> decide

/-- **The invariant of machines**: whatever operations have been made of a fresh machine, with
whatever hosts, its state is sound; it counts as running until it has halted; its labels are the
first declarations of the markers; and once it has halted, nothing that is done to it changes it. -/
theorem reachable_invariant (hx : Reachable p x) :
    x.state.Sound p ∧
      (x.state.phase.statusName = ofString "running" ↔
        x.state.phase.name ≠ ofString "halted") ∧
      (∀ m i, p.labels.get? m = some i ↔ FirstMark p.script m i) ∧
      ∀ e, x.state.phase = .halted e → ∀ y, Relation.ReflTransGen (Operates p) x y → y = x := by
  refine ⟨hx.sound, Phase.statusName_eq_running_iff _, fun m i => ?_, fun e he y hxy => ?_⟩
  · rw [p.labels_eq]
    exact get?_labels_iff p.script m i
  · induction hxy with
    | refl => rfl
    | tail _ hop ih =>
      subst ih
      exact hop.eq_of_halted he

/-- A menu with one option. -/
def menu : Program where
  script := [{
    command := ofString "Show_Options"
    params := [{ value := ofString "Go", raw := ofString "\"Go\"" }] }]
  catalog := { table := [], aliases := [] }

/-- The machine that has shown the menu. -/
def menuShown : Session Rehearsal Unit :=
  ((Session.fresh menu {} ()).step (Host.rehearsed none) menu).2

theorem reachable_invariant_menuShown :
    Reachable menu menuShown ∧ menuShown.state.phase = .waitingChoice ∧
      menuShown.state.Sound menu :=
  have hx : Reachable menu menuShown := ⟨{}, (), .single (.step _ _)⟩
  ⟨hx, by rfl, (reachable_invariant hx).1⟩

end Dialogue.Machine
