import Dialogue.Proofs.Machine.Attendance
import Dialogue.Proofs.Machine.Invariant
import Dialogue.Proofs.Machine.Late

/-!
# The rounds of a run

A run goes round until the machine has halted or a turn does not lead to another one. How often it
does is bounded by a quantity that each statement lowers: between two statements there is at most
one wait.

* `Loop`: a run with the sessions from which its rounds start. `Loop.run_eq` and
  `Session.loop_of_run` say that these are the runs that come to an end;
* `Loop.keeps`: what every turn keeps holds from the first round to the end;
* `Again.ending`: how a round can end the machine without leaving the run;
* `Host.Responsive`: every call comes back, so that no run is held (`Loop.ne_held`); `Loop.attended`:
  it is enough that the host attends to the run; `Loop.exists_ended`: and if it displays every line,
  the machine halts;
* `begun`: the statements that a run begins; `Loop.steps_eq` says that they are counted;
* `Drains`: a quantity that each statement lowers and no wait raises. **`Drains.exists_loop`** makes
  of it a bound on the rounds.
-/

namespace Dialogue.Machine

open Text

open Relation (ReflTransGen)

variable {ω β : Type} {h : Host ω β} {p : Program} {limit : Option Int} {x y : Session ω β}
  {xs : List (Session ω β)} {t : Turn ω β}

/-! ## Rounds -/

/-- The run of `x` makes one round from each of the sessions `xs`, in this order, and comes to an end
with `t`. -/
inductive Loop (h : Host ω β) (p : Program) (limit : Option Int) :
    Session ω β → List (Session ω β) → Turn ω β → Prop
  /-- The machine has halted: there is no round any more. -/
  | halted {x : Session ω β} {e : Ending} (hx : x.state.phase = .halted e) :
      Loop h p limit x [] (.ended x)
  /-- A round that leaves the run. -/
  | last {x : Session ω β} (hx : ∀ e, x.state.phase ≠ .halted e)
      (hlast : ∀ y, x.turn h p limit ≠ .again y) : Loop h p limit x [x] (x.turn h p limit)
  | round {x y : Session ω β} {xs : List (Session ω β)} {t : Turn ω β}
      (hxy : Again h p limit x y) (hrest : Loop h p limit y xs t) : Loop h p limit x (x :: xs) t

/-- The rounds and the look that finds the machine halted are the turns of the run. -/
theorem Loop.run_eq (hl : Loop h p limit x xs t) :
    x.run h p limit (xs.length + 1) = some t := by
  induction hl with
  | halted hx => rw [Session.run, Session.turn_of_halted hx]
  | last hx hlast =>
    rw [Session.run]
    split
    · rename_i y hy
      exact absurd hy (hlast y)
    · rfl
  | round hxy _ ih =>
    rw [Session.run, hxy]
    exact ih

/-- **A run that comes to an end is a loop.** -/
theorem Session.loop_of_run : ∀ {fuel : Nat} {x : Session ω β},
    x.run h p limit fuel = some t → ∃ xs, Loop h p limit x xs t
  | 0, x, ht => by simp [Session.run] at ht
  | fuel + 1, x, ht => by
    unfold Session.run at ht
    split at ht
    · rename_i y hxy
      obtain ⟨xs, hl⟩ := Session.loop_of_run ht
      exact ⟨x :: xs, .round hxy hl⟩
    · rename_i hlast
      obtain rfl := Option.some.inj ht
      cases hphase : x.state.phase with
      | halted e =>
        rw [Session.turn_of_halted hphase]
        exact ⟨[], .halted hphase⟩
      | running | waitingTimer | waitingChoice =>
        exact ⟨[x], .last (by simp [hphase]) hlast⟩

/-- **What every turn keeps** holds of the session of each round and in the end. -/
theorem Loop.keeps {P : Session ω β → Prop} (hP : ∀ x, P x → P (x.turn h p limit).session)
    (hl : Loop h p limit x xs t) (hx : P x) : (∀ y ∈ xs, P y) ∧ P t.session := by
  induction hl with
  | halted _ => exact ⟨by simp, hx⟩
  | last _ _ => exact ⟨by simpa using hx, hP _ hx⟩
  | round hxy _ ih =>
    have hy := hP _ hx
    rw [hxy] at hy
    obtain ⟨hrest, hend⟩ := ih hy
    exact ⟨List.forall_mem_cons.mpr ⟨hx, hrest⟩, hend⟩

/-! ## Sound sessions -/

theorem Transition.chain_sound {s s' : State} (hst : ReflTransGen (Transition p) s s')
    (hs : s.Sound p) : s'.Sound p :=
  Transition.chain_keeps (P := State.Sound p) (fun _ _ => Transition.sound) hst hs

theorem Session.turn_sound (hx : x.state.Sound p) :
    (x.turn h p limit).session.state.Sound p :=
  Transition.chain_sound (Session.turned h p limit x).transitions hx

theorem Again.sound (hxy : Again h p limit x y) (hx : x.state.Sound p) : y.state.Sound p :=
  Transition.chain_sound hxy.transitions hx

theorem fresh_sound (p : Program) (output : ω) (game : β) :
    (Session.fresh p output game).state.Sound p :=
  State.initial_sound p

theorem fresh_steps (p : Program) (output : ω) (game : β) :
    (Session.fresh p output game).state.steps = 0 :=
  State.settle_steps p {}

/-- A running machine has the statement that it is at. -/
theorem State.Sound.exists_statement {s : State} (hs : s.Sound p) (hrun : s.phase = .running) :
    ∃ st, p.script[s.pc]? = some st :=
  ⟨_, List.getElem?_eq_getElem (hs.pc_lt hrun)⟩

/-! ## How a round ends a machine -/

theorem State.resumeChoice_halted {s s' : State} {index : Option Int} {e : Ending}
    (hs : s.resumeChoice p index = .ok s') (he : s'.phase = .halted e) :
    e = .completed ∨ e = .cancelled := by
  cases State.chosen hs with
  | dismissed _ =>
    obtain rfl := Phase.halted.inj he
    exact .inr rfl
  | taken _ _ _ => exact .inl ((State.settle_halted he).resolve_right (by simp))

/-- **A machine that a round has ended**, and whose run goes on to find it so, was stopped at the
limit, or it has completed, or its prompt was dismissed. -/
theorem Again.ending {e : Ending} (hxy : Again h p limit x y) (hx : x.state.Sound p)
    (he : y.state.phase = .halted e) :
    (e = .stopped ∧ x.state.phase = .running ∧ x.limitReached limit = true) ∨
      e = .completed ∨ e = .cancelled := by
  cases hxy.onward with
  | limited hrun hlimit =>
    obtain rfl := Phase.halted.inj he
    exact .inl ⟨rfl, hrun, hlimit⟩
  | stepped hrun _ hstep =>
    obtain ⟨st, hst⟩ := hx.exists_statement hrun
    obtain ⟨r, target, -, -, hy⟩ := Session.moved_of_step hrun hst hstep
    rw [hy] at he
    refine .inr (.inl ((State.settle_halted he).resolve_right ?_))
    exact State.fulfil_not_halted (s := x.count.state) hrun e
  | woken _ => exact .inr (.inl ((State.settle_halted he).resolve_right (by simp)))
  | chosen _ hindex => exact .inr (State.resumeChoice_halted hindex he)

/-! ## Hosts whose calls come back -/

/-- Every call to the host comes back, with a result or with a fault. -/
structure Host.Responsive (h : Host ω β) : Prop where
  choose : ∀ options output, (h.choose options output).1 ≠ .pending
  sleep : ∀ d output, (h.sleep d output).1 ≠ .pending

theorem Host.Responsive.attends (hh : h.Responsive) : h.Attends fun _ => True where
  appendLine _ _ _ := trivial
  choose options output _ := ⟨hh.choose options output, trivial⟩
  sleep d output _ := ⟨hh.sleep d output, trivial⟩

/-- A run on a host that attends to it is not held. -/
theorem Loop.attended {P : ω → Prop} (hh : h.Attends P) (hl : Loop h p limit x xs t)
    (hx : P x.output) : t.Attended P := by
  induction hl with
  | halted _ => exact ⟨nofun, hx⟩
  | last _ _ => exact hh.turn hx
  | @round x y _ _ hxy _ ih =>
    have hturn : (x.turn h p limit).Attended P := hh.turn hx
    rw [hxy] at hturn
    exact ih hturn.2

/-- A run on a host that attends to it and displays every line ends with a machine that has halted. -/
theorem Loop.exists_ended {P : ω → Prop} (hh : h.Attends P) (hline : ∀ trouble, ¬ h.Refuses trouble)
    (hl : Loop h p limit x xs t) (hx : P x.output) :
    ∃ y e, t = .ended y ∧ y.state.phase = .halted e := by
  have hattended := hl.attended hh hx
  obtain ⟨z, -, hz, hlast⟩ := Session.run_chain hl.run_eq
  cases t with
  | again y => exact absurd rfl (hlast y)
  | held y => exact absurd rfl (hattended.1 y)
  | escaped trouble y => exact absurd (Session.refuses_of_turn hz) (hline trouble)
  | ended y =>
    obtain ⟨e, he⟩ := Session.halted_of_ended hz
    exact ⟨y, e, rfl, he⟩

theorem Loop.ne_held (hh : h.Responsive) (hl : Loop h p limit x xs t) (z : Session ω β) :
    t ≠ .held z :=
  (hl.attended hh.attends trivial).1 z

/-- A host that takes every line and every command, waits for nothing, and takes the first option. -/
def Host.eager : Host Unit β where
  appendLine _ u := (.ok (), u)
  choose options u := (.back (.ok (if options.isEmpty then none else some 0)), u)
  sleep _ u := (.back (.ok ()), u)

theorem Host.eager_responsive : (Host.eager : Host Unit β).Responsive where
  choose _ _ := by simp [Host.eager]
  sleep _ _ := by simp [Host.eager]

/-! ## Statements that are begun -/

/-- The machine waits for its timer or for a choice. -/
def Phase.Waits (phase : Phase) : Prop := phase = .waitingTimer ∨ phase = .waitingChoice

/-- The round from `x` begins a statement. -/
def Session.Begins (limit : Option Int) (x : Session ω β) : Prop :=
  x.state.phase = .running ∧ x.limitReached limit = false

instance (limit : Option Int) (x : Session ω β) : Decidable (x.Begins limit) :=
  inferInstanceAs (Decidable (_ ∧ _))

/-- The numbers of the statements that rounds from `xs` begin, in order. -/
def begun (limit : Option Int) (xs : List (Session ω β)) : List Nat :=
  (xs.filter fun x => decide (x.Begins limit)).map fun x => x.state.pc

theorem State.resumeChoice_steps {s s' : State} {index : Option Int}
    (hs : s.resumeChoice p index = .ok s') : s'.steps = s.steps := by
  cases State.chosen hs with
  | dismissed _ => rfl
  | taken _ _ _ => exact State.settle_steps _ _

theorem Session.fail_steps (x : Session ω β) (f : Fault) :
    (x.fail h f).session.state.steps = x.state.steps := by
  rcases hline : h.appendLine (faultLine f) x.output with ⟨_ | _, output⟩
  · rw [Session.fail_of_error hline]
    rfl
  · rw [Session.fail_of_ok hline]
    rfl

theorem Session.not_begins_of_waits (hx : x.state.phase.Waits) : ¬ x.Begins limit := by
  rintro ⟨hrun, -⟩
  simp [Phase.Waits, hrun] at hx

/-- **A turn counts the statement that it begins**, and nothing else. -/
theorem Session.turn_steps (hx : x.state.Sound p) :
    (x.turn h p limit).session.state.steps =
      x.state.steps + if x.Begins limit then 1 else 0 := by
  have ht := Session.turned h p limit x
  generalize x.turn h p limit = t at ht
  cases ht with
  | ended he => simp [Turn.session, Session.Begins, he]
  | limited _ hlimit => simp [Turn.session, Session.Begins, hlimit, State.finish]
  | @stepped y hrun hlimit hstep =>
    obtain ⟨st, hst⟩ := hx.exists_statement hrun
    obtain ⟨r, target, -, -, hy⟩ := Session.moved_of_step hrun hst hstep
    rw [if_pos ⟨hrun, hlimit⟩, Turn.session, hy, State.settle_steps]
    exact State.fulfil_steps _ _ _
  | woken hwait _ _ =>
    rw [if_neg (Session.not_begins_of_waits (.inl hwait))]
    exact State.settle_steps _ _
  | chosen hwait _ hindex =>
    rw [if_neg (Session.not_begins_of_waits (.inr hwait))]
    exact State.resumeChoice_steps hindex
  | held hwait => rw [if_neg (Session.not_begins_of_waits hwait)]; rfl
  | faulted hf =>
    rw [Session.fail_steps]
    cases hf with
    | step hrun hlimit hstep =>
      obtain ⟨st, hst⟩ := hx.exists_statement hrun
      obtain ⟨hy, -⟩ := Session.fault_of_step hst hstep
      rw [if_pos ⟨hrun, hlimit⟩, hy]
      rfl
    | tooLong hwait _ => rw [if_neg (Session.not_begins_of_waits (.inl hwait))]; rfl
    | sleep hwait _ _ => rw [if_neg (Session.not_begins_of_waits (.inl hwait))]; rfl
    | prompt hwait _ => rw [if_neg (Session.not_begins_of_waits (.inr hwait))]; rfl
    | answer hwait _ _ => rw [if_neg (Session.not_begins_of_waits (.inr hwait))]; rfl

theorem Again.steps (hxy : Again h p limit x y) (hx : x.state.Sound p) :
    y.state.steps = x.state.steps + if x.Begins limit then 1 else 0 := by
  have hsteps : (x.turn h p limit).session.state.steps = _ := Session.turn_steps hx
  rw [hxy] at hsteps
  exact hsteps

theorem begun_cons (limit : Option Int) (x : Session ω β) (xs : List (Session ω β)) :
    begun limit (x :: xs) =
      if x.Begins limit then x.state.pc :: begun limit xs else begun limit xs := by
  by_cases hb : x.Begins limit <;> simp [begun, hb]

/-- **What a run has counted in the end are the statements that it has begun.** -/
theorem Loop.steps_eq (hl : Loop h p limit x xs t) (hx : x.state.Sound p) :
    t.session.state.steps = x.state.steps + (begun limit xs).length := by
  induction hl with
  | halted _ => rfl
  | last _ _ =>
    rw [Session.turn_steps hx, begun_cons]
    split <;> rfl
  | round hxy _ ih =>
    rw [ih (hxy.sound hx), hxy.steps hx, begun_cons]
    split
    · rw [List.length_cons]
      omega
    · rfl

/-! ## A bound on the rounds -/

theorem settle_not_waits {s : State} (hs : s.phase = .running) :
    ¬ (State.settle p s).phase.Waits := by
  unfold State.settle
  split <;> simp [State.finish, Phase.Waits, hs]

theorem fresh_not_waits (p : Program) (output : ω) (game : β) :
    ¬ (Session.fresh p output game).state.phase.Waits :=
  settle_not_waits rfl

theorem State.resumeChoice_not_waits {s s' : State} {index : Option Int}
    (hs : s.resumeChoice p index = .ok s') : ¬ s'.phase.Waits := by
  cases State.chosen hs with
  | dismissed _ => simp [State.finish, Phase.Waits]
  | taken _ _ _ => exact settle_not_waits rfl

/-- A wait is over in one round. -/
theorem Again.not_waits (hxy : Again h p limit x y) (hx : x.state.phase.Waits) :
    ¬ y.state.phase.Waits := by
  cases hxy.onward with
  | limited hrun _ | stepped hrun _ _ => simp [Phase.Waits, hrun] at hx
  | woken _ => exact settle_not_waits rfl
  | chosen _ hindex => exact State.resumeChoice_not_waits hindex

/-- On the sessions that `P` holds of, and that the run does not leave, `room` is lowered by each
statement that is carried out and not raised by waiting. -/
structure Drains (h : Host ω β) (p : Program) (limit : Option Int) (P : Session ω β → Prop)
    (room : State → Nat) : Prop where
  keeps : ∀ x y, P x → Again h p limit x y → P y
  statement : ∀ x y, P x → Again h p limit x y → x.state.phase = .running →
    (∃ e, y.state.phase = .halted e) ∨ room y.state < room x.state
  wait : ∀ x y, P x → Again h p limit x y → x.state.phase.Waits → room y.state ≤ room x.state

/-- The most rounds that are left when `room` statements may still be carried out: each may be
followed by a wait, and one round more finds that there is no room. -/
def roundsLeft (room : Nat) : Phase → Nat
  | .halted _ => 0
  | .running => 2 * room + 1
  | .waitingTimer | .waitingChoice => 2 * room + 2

theorem roundsLeft_le (room : Nat) (phase : Phase) : roundsLeft room phase ≤ 2 * room + 2 := by
  cases phase <;> simp [roundsLeft]

theorem roundsLeft_le_of_not_waits (room : Nat) {phase : Phase} (hphase : ¬ phase.Waits) :
    roundsLeft room phase ≤ 2 * room + 1 := by
  cases phase <;> simp_all [roundsLeft, Phase.Waits]

theorem roundsLeft_of_waits (room : Nat) {phase : Phase} (hphase : phase.Waits) :
    roundsLeft room phase = 2 * room + 2 := by
  rcases hphase with rfl | rfl <;> rfl

namespace Drains

variable {P : Session ω β → Prop} {room : State → Nat}

/-- **Every round lowers the number of rounds that are left.** -/
theorem roundsLeft_lt (hd : Drains h p limit P room) (hx : P x) (hxy : Again h p limit x y) :
    roundsLeft (room y.state) y.state.phase < roundsLeft (room x.state) x.state.phase := by
  have hwaits : ∀ hw : x.state.phase.Waits,
      roundsLeft (room y.state) y.state.phase < roundsLeft (room x.state) x.state.phase := by
    intro hw
    have hroom := hd.wait x y hx hxy hw
    have hy := roundsLeft_le_of_not_waits (room y.state) (hxy.not_waits hw)
    rw [roundsLeft_of_waits _ hw]
    omega
  cases hphase : x.state.phase with
  | halted e =>
    rw [Again, Session.turn_of_halted hphase] at hxy
    cases hxy
  | waitingTimer => exact hphase ▸ hwaits (.inl hphase)
  | waitingChoice => exact hphase ▸ hwaits (.inr hphase)
  | running =>
    rcases hd.statement x y hx hxy hphase with ⟨e, he⟩ | hroom
    · simp [he, roundsLeft]
    · have hy := roundsLeft_le (room y.state) y.state.phase
      change _ < 2 * room x.state + 1
      omega

/-- **The run comes to an end**, or is held by its host, after no more rounds than are left. -/
theorem exists_loop (hd : Drains h p limit P room) (hx : P x) :
    ∃ xs t, Loop h p limit x xs t ∧ xs.length ≤ roundsLeft (room x.state) x.state.phase := by
  induction hn : roundsLeft (room x.state) x.state.phase using Nat.strongRecOn generalizing x with
  | ind n ih =>
    subst hn
    by_cases hagain : ∃ y, Again h p limit x y
    · obtain ⟨y, hxy⟩ := hagain
      have hlt := hd.roundsLeft_lt hx hxy
      obtain ⟨xs, t, hl, hlen⟩ := ih _ hlt (hd.keeps x y hx hxy) rfl
      exact ⟨x :: xs, t, .round hxy hl, by rw [List.length_cons]; omega⟩
    · have hlast : ∀ y, x.turn h p limit ≠ .again y := fun y hxy => hagain ⟨y, hxy⟩
      cases hphase : x.state.phase with
      | halted e => exact ⟨[], _, .halted hphase, Nat.zero_le _⟩
      | running | waitingTimer | waitingChoice =>
        exact ⟨[x], _, .last (by simp [hphase]) hlast, by simp [roundsLeft]⟩

end Drains

end Dialogue.Machine
