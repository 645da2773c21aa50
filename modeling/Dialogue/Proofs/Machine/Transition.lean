import Dialogue.Proofs.Machine.Turn

/-!
# The states that operations lead to

A machine is driven from outside, by steps, resumptions and stops, or it drives itself through a
run. Whatever is done to it, its state changes in five ways only, and those do not mention the host.

* `Operates`: the operations, each with any host, the turns of a run and whole runs included;
* `Reachable`: the sessions that operations lead to from a fresh machine;
* `Chosen`: the two ways in which a wait for a choice ends (`State.chosen`);
* `Transition`: the five ways in which a state changes, and `Transition.vars`: the one in which the
  variables do. `Transition.chain_keeps` carries what they keep along chains of them;
* **`Operates.transitions`**: every operation is a chain of transitions, so that what transitions
  keep holds of all reachable states (`Reachable.induct`).
-/

namespace Dialogue.Machine

open Text

variable {ω β : Type} {h : Host ω β} {p : Program} {limit : Option Int} {x y : Session ω β}

/-! ## Operations -/

/-- The session that a turn leaves. -/
def Turn.session : Turn ω β → Session ω β
  | .again x | .ended x | .held x | .escaped _ x => x

/-- The session after an operation on its state; one that fails changes nothing. -/
def Session.accept (x : Session ω β) : Except Fault State → Session ω β
  | .ok state => { x with state }
  | .error _ => x

/-- One operation on a machine. The host may be another one each time. -/
inductive Operates (p : Program) : Session ω β → Session ω β → Prop
  /-- A step, with or without a fault. -/
  | step (h : Host ω β) (x : Session ω β) : Operates p x (x.step h p).2
  | resumeTimer (x : Session ω β) : Operates p x (x.accept (x.state.resumeTimer p))
  | resumeChoice (index : Option Int) (x : Session ω β) :
      Operates p x (x.accept (x.state.resumeChoice p index))
  | stop (x : Session ω β) : Operates p x { x with state := x.state.stop }
  /-- A run is under way. -/
  | turn (h : Host ω β) (limit : Option Int) (x : Session ω β) :
      Operates p x (x.turn h p limit).session
  /-- A run has ended, is held by its host, or was left by a fault. -/
  | run {h : Host ω β} {limit : Option Int} {fuel : Nat} {x : Session ω β} {t : Turn ω β}
      (ht : x.run h p limit fuel = some t) : Operates p x t.session
  /-- A run is cancelled; a machine that has halted has no run to cancel. -/
  | cancel (x : Session ω β) (hx : ∀ e, x.state.phase ≠ .halted e) : Operates p x x.cancel

/-- A fresh machine on a host. -/
def Session.fresh (p : Program) (output : ω) (game : β) : Session ω β :=
  { state := State.initial p, output, game }

/-- The session is what operations have made of a fresh machine. -/
def Reachable (p : Program) (x : Session ω β) : Prop :=
  ∃ output game, Relation.ReflTransGen (Operates p) (Session.fresh p output game) x

/-! ## Transitions -/

/-- The ways in which the state of a machine changes. -/
inductive Transition (p : Program) : State → State → Prop
  | step {s t : State} {f : Option Fault} (hs : Stepped p s f t) : Transition p s t
  | wake {s : State} (hs : s.phase = .waitingTimer) :
      Transition p s (State.settle p { s with waitMs := 0, phase := .running })
  | choose {s t : State} {index : Option Int} (hs : s.resumeChoice p index = .ok t) :
      Transition p s t
  /-- A machine ends from outside: stopped, cancelled or failed. -/
  | finish {s : State} {e : Ending} (hs : ∀ e, s.phase ≠ .halted e) (he : e ≠ .completed) :
      Transition p s (s.finish e)
  /-- A run has run into a fault. -/
  | note {s : State} {f : Fault} (hs : ∀ e, s.phase ≠ .halted e) : Transition p s (s.noted f)

open Relation (ReflTransGen)

/-- What every transition keeps, chains of them keep. -/
theorem Transition.chain_keeps {P : State → Prop} (hkeep : ∀ s t, Transition p s t → P s → P t)
    {s t : State} (hst : ReflTransGen (Transition p) s t) (hs : P s) : P t := by
  induction hst with
  | refl => exact hs
  | tail _ hstep ih => exact hkeep _ _ hstep ih

theorem Transition.accept {r : Except Fault State}
    (hr : ∀ s, r = .ok s → Transition p x.state s) :
    ReflTransGen (Transition p) x.state (x.accept r).state := by
  cases r with
  | error f => exact ReflTransGen.refl
  | ok s => exact ReflTransGen.single (hr s rfl)

theorem Transition.of_resumeTimer {s t : State} (hs : s.resumeTimer p = .ok t) :
    Transition p s t := by
  unfold State.resumeTimer at hs
  split at hs
  · rename_i hwait
    cases hs
    exact .wake hwait
  · cases hs

/-- What ends the wait for a choice of a machine in the state `s`. -/
inductive Chosen (p : Program) (s : State) : State → Prop
  /-- The prompt was dismissed. -/
  | dismissed (hs : s.phase = .waitingChoice) :
      Chosen p s ({ s with offers := none }.finish .cancelled)
  | taken {offers : List Offer} {o : Offer} (hs : s.phase = .waitingChoice)
      (hoffers : s.offers = some offers) (ho : o ∈ offers) :
      Chosen p s
        (State.settle p { s with offers := none, pc := s.target p o, phase := .running })

/-- **A choice ends a wait in no way but these.** -/
theorem State.chosen {s t : State} {index : Option Int} (ht : s.resumeChoice p index = .ok t) :
    Chosen p s t := by
  unfold State.resumeChoice at ht
  split at ht
  · rename_i offers hwait hoffers
    split at ht
    · cases ht
      exact .dismissed hwait
    · split at ht
      · cases ht
      · split at ht
        · cases ht
        · rename_i o ho
          cases ht
          exact .taken hwait hoffers (List.mem_of_getElem? ho)
  · cases ht

/-- **The variables change by assignments only.** -/
theorem Transition.vars {s t : State} (hst : Transition p s t) : t.vars = s.vars ∨
    ∃ st ∈ p.script, ∃ bridged name type value,
      request p bridged s.vars st = .ok (.assign name type value) ∧ name ≠ [] ∧
        t.vars = s.vars.put name { name, type, value, line := st.line } := by
  cases hst with
  | wake _ => exact .inl (State.settle_vars _ _)
  | choose ht =>
    cases State.chosen ht with
    | dismissed _ => exact .inl rfl
    | taken _ _ _ => exact .inl (State.settle_vars _ _)
  | finish _ _ => exact .inl rfl
  | note _ => exact .inl rfl
  | step hs =>
    cases hs with
    | idle _ => exact .inl rfl
    | failed _ _ => exact .inl rfl
    | @moved st bridged r target hrun hst hr htarget =>
      rw [State.settle_vars]
      cases r with
      | assign name type value =>
        by_cases hname : name = []
        · exact .inl (by simp [State.fulfil, hname])
        · refine .inr ⟨st, List.mem_of_getElem? hst, bridged, name, type, value, hr, hname, ?_⟩
          simp [State.fulfil, hname]
      | offer offers =>
        refine .inl ?_
        simp only [State.fulfil]
        split <;> rfl
      | _ => exact .inl rfl

theorem Faults.transitions {f : Fault} (hf : Faults h p limit x f y) :
    ReflTransGen (Transition p) x.state y.state := by
  cases hf with
  | step hx hlimit hstep =>
    have hs := Session.stepped h p x
    rw [hstep] at hs
    exact ReflTransGen.single (.step hs)
  | tooLong | sleep | prompt | answer => exact ReflTransGen.refl

theorem Faults.not_halted_after {f : Fault} (hf : Faults h p limit x f y) (e : Ending) :
    y.state.phase ≠ .halted e := by
  rcases hf.state with hy | hy
  · rw [hy]
    exact hf.not_halted e
  · rw [hy]
    exact hf.not_halted e

/-- Reporting a fault notes it, and ends the run if the report is displayed. -/
theorem Session.fail_transitions {f : Fault} (hx : ∀ e, x.state.phase ≠ .halted e) :
    ReflTransGen (Transition p) x.state (x.fail h f).session.state := by
  have hnote : Transition p x.state (x.state.noted f) := .note hx
  rcases hline : h.appendLine (faultLine f) x.output with ⟨_ | _, output⟩
  · rw [Session.fail_of_error hline]
    exact ReflTransGen.single hnote
  · rw [Session.fail_of_ok hline]
    exact (ReflTransGen.single hnote).tail (.finish hx (by simp))

theorem Turned.transitions {t : Turn ω β} (ht : Turned h p limit x t) :
    ReflTransGen (Transition p) x.state t.session.state := by
  cases ht with
  | ended | held => exact ReflTransGen.refl
  | limited hx hlimit => exact ReflTransGen.single (.finish (by simp [hx]) (by simp))
  | stepped hx hlimit hstep =>
    have hs := Session.stepped h p x
    rw [hstep] at hs
    exact ReflTransGen.single (.step hs)
  | woken hx hd hsleep => exact ReflTransGen.single (.wake hx)
  | chosen hx hchoose hindex => exact ReflTransGen.single (.choose hindex)
  | faulted hf => exact hf.transitions.trans (Session.fail_transitions hf.not_halted_after)

theorem Again.transitions (hxy : Again h p limit x y) :
    ReflTransGen (Transition p) x.state y.state := by
  have ht := (Session.turned h p limit x).transitions
  rw [hxy] at ht
  exact ht

/-- The turns of a run are transitions of its state. -/
theorem Again.chain_transitions (hchain : ReflTransGen (Again h p limit) x y) :
    ReflTransGen (Transition p) x.state y.state := by
  induction hchain with
  | refl => exact ReflTransGen.refl
  | tail _ hagain ih => exact ih.trans hagain.transitions

theorem Session.run_transitions {fuel : Nat} {t : Turn ω β}
    (ht : x.run h p limit fuel = some t) :
    ReflTransGen (Transition p) x.state t.session.state := by
  obtain ⟨y, hchain, rfl, -⟩ := Session.run_chain ht
  exact (Again.chain_transitions hchain).trans (Session.turned h p limit y).transitions

/-- **Every operation is a chain of transitions.** -/
theorem Operates.transitions (hxy : Operates p x y) :
    ReflTransGen (Transition p) x.state y.state := by
  cases hxy with
  | step h => exact ReflTransGen.single (.step (Session.stepped h p x))
  | resumeTimer => exact Transition.accept fun s hs => .of_resumeTimer hs
  | resumeChoice index => exact Transition.accept fun s hs => .choose hs
  | stop =>
    unfold State.stop
    split
    · exact ReflTransGen.refl
    · rename_i hx
      exact ReflTransGen.single (.finish hx (by simp))
  | turn h limit => exact (Session.turned h p limit x).transitions
  | run ht => exact Session.run_transitions ht
  | cancel _ hx => exact ReflTransGen.single (.finish hx (by simp))

/-- What holds of the initial state and is kept by transitions holds of every reachable state. -/
theorem Reachable.induct {P : State → Prop} (hinit : P (State.initial p))
    (hkeep : ∀ s t, Transition p s t → P s → P t) (hx : Reachable p x) : P x.state := by
  obtain ⟨output, game, hops⟩ := hx
  induction hops with
  | refl => exact hinit
  | tail _ hop ih => exact Transition.chain_keeps hkeep hop.transitions ih

end Dialogue.Machine
