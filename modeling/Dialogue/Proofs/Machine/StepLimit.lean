import Dialogue.Proofs.Machine.Loop

/-!
# Runs under a step limit

A step limit bounds the rounds of a run, and otherwise does as little as it can: a run under a limit is
the run without one until as many statements as the limit says have been begun. Where a statement
is left then, the run stops; where none is, it ends as it would have.

* `drains_limited`: the statements up to the limit drain away;
* `Again.unlimited`, `limited_chain`: a run under a limit and the run without one go together;
* `Loop.of_stopped`, `Loop.of_reached`: a run is stopped at the first statement beyond the limit;
  **`Loop.stopped_iff`** says that it is stopped nowhere else, and `exceeds_iff` that this is to count
  more than the limit says;
* **`exists_loop_limited`**: how a run under a limit comes to an end.
-/

namespace Dialogue.Machine

open Text

open Relation (ReflTransGen)

variable {ω β : Type} {h : Host ω β} {p : Program} {limit : Option Int} {x y z : Session ω β}
  {xs : List (Session ω β)} {t : Turn ω β} {m : Nat}

/-! ## The limit -/

theorem limitReached_eq_false_iff :
    x.limitReached (some (m : Int)) = false ↔ x.state.steps < m := by
  simp [Session.limitReached]

theorem limitReached_eq_true_iff : x.limitReached (some (m : Int)) = true ↔ m ≤ x.state.steps := by
  simp [Session.limitReached]

/-- No turn counts beyond the limit. -/
theorem Session.turn_steps_le (hx : x.state.Sound p) (hsteps : x.state.steps ≤ m) :
    (x.turn h p (some (m : Int))).session.state.steps ≤ m := by
  rw [Session.turn_steps hx]
  split
  · rename_i hb
    exact limitReached_eq_false_iff.mp hb.2
  · exact hsteps

theorem Session.turn_of_limited (hrun : x.state.phase = .running)
    (hlimit : x.limitReached limit = true) :
    x.turn h p limit = .again { x with state := x.state.finish .stopped } := by
  simp [Session.turn, hrun, Session.advance, hlimit, State.stop]

theorem drains_limited (h : Host ω β) (p : Program) (m : Nat) :
    Drains h p (some (m : Int)) (fun x => x.state.Sound p) fun s => m - s.steps where
  keeps _ _ hx hxy := hxy.sound hx
  statement x y hx hxy hrun := by
    cases hlimit : x.limitReached (some (m : Int)) with
    | true =>
      rw [Again, Session.turn_of_limited hrun hlimit] at hxy
      cases hxy
      exact .inl ⟨.stopped, rfl⟩
    | false =>
      have hsteps := hxy.steps hx
      have hlt := limitReached_eq_false_iff.mp hlimit
      rw [if_pos ⟨hrun, hlimit⟩] at hsteps
      exact .inr (by omega)
  wait x y hx hxy hwait := by
    have hsteps := hxy.steps hx
    rw [if_neg (Session.not_begins_of_waits hwait)] at hsteps
    omega

/-! ## The last turn -/

/-- A turn that leaves the run does not stop the machine. -/
theorem Session.last_not_stopped (hx : ∀ e, x.state.phase ≠ .halted e)
    (hlast : ∀ y, x.turn h p limit ≠ .again y) :
    (x.turn h p limit).session.state.phase ≠ .halted .stopped := by
  have ht := Session.turned h p limit x
  generalize x.turn h p limit = turn at ht hlast
  cases ht with
  | ended he => exact absurd he (hx _)
  | limited _ _ | stepped _ _ _ | woken _ _ _ | chosen _ _ _ => exact absurd rfl (hlast _)
  | held _ => exact hx .stopped
  | @faulted f y hf =>
    rcases hline : h.appendLine (faultLine f) y.output with ⟨_ | _, output⟩
    · rw [Session.fail_of_error hline]
      exact hf.not_halted_after .stopped
    · rw [Session.fail_of_ok hline]
      simp [Turn.session, State.finish]

/-! ## With a limit and without -/

/-- Below the limit a turn is that of a run without one. -/
theorem Session.turn_unlimited (hx : x.state.phase = .running → x.limitReached limit = false) :
    x.turn h p limit = x.turn h p none := by
  unfold Session.turn
  cases hphase : x.state.phase with
  | running =>
    have hnone : x.limitReached none = false := rfl
    simp only [Session.advance, hx hphase, hnone]
  | waitingTimer | waitingChoice | halted e => rfl

theorem Again.unlimited (hxy : Again h p limit x y)
    (hx : x.state.phase = .running → x.limitReached limit = false) : Again h p none x y := by
  rw [Again, ← Session.turn_unlimited hx]
  exact hxy

theorem chain_steps_le (hchain : ReflTransGen (Again h p limit) x z) (hx : x.state.Sound p) :
    x.state.steps ≤ z.state.steps := by
  induction hchain using ReflTransGen.head_induction_on with
  | refl => exact Nat.le_refl _
  | head hxy _ ih =>
    have hsteps := hxy.steps hx
    have hrest := ih (hxy.sound hx)
    omega

/-- **What a run without a limit reaches within the limit** it reaches under the limit. -/
theorem limited_chain (hchain : ReflTransGen (Again h p none) x z) (hx : x.state.Sound p)
    (hz : z.state.steps ≤ m) : ReflTransGen (Again h p (some (m : Int))) x z := by
  induction hchain using ReflTransGen.head_induction_on with
  | refl => exact ReflTransGen.refl
  | @head x y hxy hyz ih =>
    refine ReflTransGen.head ?_ (ih (hxy.sound hx))
    rw [Again, Session.turn_unlimited (x := x)]
    · exact hxy
    · -- a statement that is begun is counted, and no more than `m` have been in the end
      intro hrun
      have hsteps := hxy.steps hx
      have hle := chain_steps_le hyz (hxy.sound hx)
      rw [if_pos ⟨hrun, rfl⟩] at hsteps
      exact limitReached_eq_false_iff.mpr (by omega)

/-! ## Where a run stops -/

/-- A run that is stopped would have gone on from there to another statement. -/
theorem Loop.of_stopped (hl : Loop h p limit x xs t) (hx : x.state.Sound p)
    (hnot : x.state.phase ≠ .halted .stopped) (ht : t.session.state.phase = .halted .stopped) :
    ∃ z ∈ xs, ReflTransGen (Again h p none) x z ∧ z.state.phase = .running ∧
      z.limitReached limit = true := by
  induction hl with
  | halted _ => exact absurd ht hnot
  | last hphase hlast => exact absurd ht (Session.last_not_stopped hphase hlast)
  | @round x y xs t hxy _ ih =>
    by_cases hlimit : x.state.phase = .running ∧ x.limitReached limit = true
    · exact ⟨x, List.mem_cons_self, ReflTransGen.refl, hlimit⟩
    · have hy : y.state.phase ≠ .halted .stopped := by
        intro hy
        rcases hxy.ending hx hy with ⟨-, hboth⟩ | hother | hother
        · exact hlimit hboth
        · cases hother
        · cases hother
      have hbelow : x.state.phase = .running → x.limitReached limit = false := by
        intro hrun
        simpa [hrun] using hlimit
      obtain ⟨z, hz, hchain, hend⟩ := ih (hxy.sound hx) hy ht
      exact ⟨z, List.mem_cons_of_mem x hz, hchain.head (hxy.unlimited hbelow), hend⟩

/-- Where a run without a limit has a statement left after as many as the limit says, the run under
the limit is stopped there. -/
theorem Loop.of_reached (hl : Loop h p (some (m : Int)) x xs t) (hx : x.state.Sound p)
    (hchain : ReflTransGen (Again h p none) x z) (hrun : z.state.phase = .running)
    (hsteps : z.state.steps = m) : t = .ended { z with state := z.state.finish .stopped } := by
  have hlimited := limited_chain hchain hx (Nat.le_of_eq hsteps)
  have hstop : Again h p (some (m : Int)) z { z with state := z.state.finish .stopped } :=
    Session.turn_of_limited hrun (limitReached_eq_true_iff.mpr (Nat.le_of_eq hsteps.symm))
  have hlast : ({ z with state := z.state.finish .stopped } : Session ω β).turn h p (some (m : Int))
      = .ended { z with state := z.state.finish .stopped } := Session.turn_of_halted rfl _ _
  rw [Session.run_eq_of_chain (hlimited.tail hstop) (by simp [hlast]) hl.run_eq, hlast]

/-- Where a run without a limit is over within the limit, so is the run under the limit. -/
theorem Loop.of_halted {e : Ending} (hl : Loop h p (some (m : Int)) x xs t)
    (hx : x.state.Sound p) (hchain : ReflTransGen (Again h p none) x z)
    (hz : z.state.phase = .halted e) (hsteps : z.state.steps ≤ m) : t = .ended z := by
  have hlast : z.turn h p (some (m : Int)) = .ended z := Session.turn_of_halted hz _ _
  rw [Session.run_eq_of_chain (limited_chain hchain hx hsteps) (by simp [hlast]) hl.run_eq, hlast]

/-- No session of a run has counted more than the limit says, nor has its end. -/
theorem Loop.steps_le (hl : Loop h p (some (m : Int)) x xs t) (hx : x.state.Sound p)
    (hsteps : x.state.steps ≤ m) :
    (∀ y ∈ xs, y.state.Sound p ∧ y.state.steps ≤ m) ∧
      t.session.state.Sound p ∧ t.session.state.steps ≤ m :=
  hl.keeps (P := fun x => x.state.Sound p ∧ x.state.steps ≤ m)
    (fun _ hx => ⟨Session.turn_sound hx.1, Session.turn_steps_le hx.1 hx.2⟩) ⟨hx, hsteps⟩

/-- **A run under a limit is stopped** iff the run without one has a statement left when it has begun
as many as the limit says. -/
theorem Loop.stopped_iff (hl : Loop h p (some (m : Int)) x xs t) (hx : x.state.Sound p)
    (hnot : x.state.phase ≠ .halted .stopped) (hsteps : x.state.steps ≤ m) :
    t.session.state.phase = .halted .stopped ↔
      ∃ z, ReflTransGen (Again h p none) x z ∧ z.state.phase = .running ∧
        z.state.pc < p.script.length ∧ z.state.steps = m := by
  constructor
  · intro hend
    obtain ⟨z, hz, hchain, hrun, hlimit⟩ := hl.of_stopped hx hnot hend
    obtain ⟨hsound, hle⟩ := (hl.steps_le hx hsteps).1 z hz
    have hge := limitReached_eq_true_iff.mp hlimit
    exact ⟨z, hchain, hrun, hsound.pc_lt hrun, Nat.le_antisymm hle hge⟩
  · rintro ⟨z, hchain, hrun, -, hcount⟩
    rw [hl.of_reached hx hchain hrun hcount]
    rfl

/-- A turn that counts beyond `m` begins a statement when `m` have been begun. -/
theorem Session.begins_of_lt (hx : x.state.Sound p) (hsteps : x.state.steps ≤ m)
    (hlt : m < (x.turn h p limit).session.state.steps) :
    x.Begins limit ∧ x.state.steps = m := by
  rw [Session.turn_steps hx] at hlt
  split at hlt
  · rename_i hbegins
    exact ⟨hbegins, by omega⟩
  · omega

/-- **A run counts more than `m` statements** iff it has a statement left when it has begun `m`. -/
theorem exceeds_iff (hx : x.state.Sound p) (hsteps : x.state.steps ≤ m) :
    (∃ y, ReflTransGen (Again h p none) x y ∧ m < (y.turn h p none).session.state.steps) ↔
      ∃ z, ReflTransGen (Again h p none) x z ∧ z.state.phase = .running ∧
        z.state.pc < p.script.length ∧ z.state.steps = m := by
  constructor
  · rintro ⟨y, hchain, hy⟩
    induction hchain using ReflTransGen.head_induction_on with
    | refl =>
      obtain ⟨⟨hrun, -⟩, hcount⟩ := Session.begins_of_lt hx hsteps hy
      exact ⟨y, .refl, hrun, hx.pc_lt hrun, hcount⟩
    | @head x w hxw _ ih =>
      by_cases hle : w.state.steps ≤ m
      · obtain ⟨z, hwz, hz⟩ := ih (hxw.sound hx) hle
        exact ⟨z, hwz.head hxw, hz⟩
      · have hlt : m < (x.turn h p none).session.state.steps := by
          rw [hxw]
          exact Nat.not_le.mp hle
        obtain ⟨⟨hrun, -⟩, hcount⟩ := Session.begins_of_lt hx hsteps hlt
        exact ⟨x, .refl, hrun, hx.pc_lt hrun, hcount⟩
  · rintro ⟨z, hchain, hrun, -, hcount⟩
    have hz := Transition.chain_sound (Again.chain_transitions hchain) hx
    refine ⟨z, hchain, ?_⟩
    rw [Session.turn_steps hz, if_pos ⟨hrun, rfl⟩]
    omega

theorem fresh_not_stopped (p : Program) (output : ω) (game : β) :
    (Session.fresh p output game).state.phase ≠ .halted .stopped := by
  intro hstopped
  rcases State.settle_halted hstopped with hend | hend <;> cases hend

/-- **A step limit bounds every run exactly.** On a host whose calls come back, a run under the limit
`m` comes to an end after no more than `2 * m + 1` rounds and `m` statements. It is stopped iff the run
without a limit has a statement left when it has begun `m` and has waited for all that they asked for,
and then `m` have been begun; and a run that is over by then, the last of its statements being the
`m`-th perhaps, ends as it does without a limit. All this holds whether or not a call fails. -/
theorem exists_loop_limited (hh : h.Responsive) (p : Program) (m : Nat) (output : ω) (game : β) :
    ∃ xs t, Loop h p (some (m : Int)) (Session.fresh p output game) xs t ∧
      (∀ y, t ≠ .held y) ∧ xs.length ≤ 2 * m + 1 ∧ t.session.state.steps ≤ m ∧
      (t.session.state.phase = .halted .stopped ↔
        ∃ z, ReflTransGen (Again h p none) (Session.fresh p output game) z ∧
          z.state.phase = .running ∧ z.state.pc < p.script.length ∧ z.state.steps = m) ∧
      (t.session.state.phase = .halted .stopped → t.session.state.steps = m) ∧
      ∀ z e, ReflTransGen (Again h p none) (Session.fresh p output game) z →
        z.state.phase = .halted e → z.state.steps ≤ m → t = .ended z := by
  have hfresh := fresh_sound p output game
  have hzero := fresh_steps p output game
  obtain ⟨xs, t, hl, hlen⟩ := (drains_limited h p m).exists_loop hfresh
  have hbound := roundsLeft_le_of_not_waits (m - 0) (fresh_not_waits p output game)
  rw [hzero] at hlen
  have hle : (Session.fresh p output game).state.steps ≤ m := by omega
  have hstopped := hl.stopped_iff hfresh (fresh_not_stopped p output game) hle
  refine ⟨xs, t, hl, hl.ne_held hh, by omega, (hl.steps_le hfresh hle).2.2, hstopped,
    fun hend => ?_, ?_⟩
  · obtain ⟨z, hchain, hrun, -, hsteps⟩ := hstopped.mp hend
    rw [hl.of_reached hfresh hchain hrun hsteps]
    exact hsteps
  · intro z e hchain hz hsteps
    exact hl.of_halted hfresh hchain hz hsteps

/-- A script that goes back to its beginning for ever. -/
def endless : Program where
  script := [
    { command := ofString "Line_Marker"
      params := [{ value := ofString "again", raw := ofString "\"again\"" }] },
    { command := ofString "Jump_To"
      params := [{ value := ofString "again", raw := ofString "\"again\"" }] }]
  catalog := { table := [], aliases := [] }

theorem exists_loop_limited_endless :
    (Host.eager : Host Unit Unit).Responsive ∧
      ∃ xs t, Loop (Host.eager : Host Unit Unit) endless (some (5 : Nat))
          (Session.fresh endless () ()) xs t ∧
        xs.length ≤ 11 ∧ t.session.state.phase = .halted .stopped ∧
          t.session.state.steps = 5 := by
  have hh : (Host.eager : Host Unit Unit).Responsive := Host.eager_responsive
  obtain ⟨xs, t, hl, -, hlen, -, hiff, hsteps, -⟩ := exists_loop_limited hh endless 5 () ()
  have hstopped := hiff.mpr ⟨_, .tail (.tail (.tail (.tail (.single rfl) rfl) rfl) rfl) rfl,
    rfl, by decide, rfl⟩
  exact ⟨hh, xs, t, hl, hlen, hstopped, hsteps hstopped⟩

end Dialogue.Machine
