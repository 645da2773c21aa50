import Dialogue.Machine.Step

/-!
# What a step does not notice

A step reads the variables through the texts of its parameters, and it counts without looking at how
far it has counted. Whatever is changed behind those texts, or in the count, goes through the step
untouched.

* `Disguise`: a change of statements, variables and count that no request sees through;
* `Disguise.counted`: the change that has counted one step more;
* `Disguise.fulfil`: requests are fulfilled alike;
* **`Disguise.step`**: a step of the changed machine is the step changed.
-/

namespace Dialogue.Machine

open Text

variable {ω β : Type} {p p' : Program}

/-- A change of the statements of `p` to those of `p'`, of the variables and of the count, under which
every statement asks for the same. -/
structure Disguise (p p' : Program) where
  statement : Statement → Statement
  vars : Table Variable → Table Variable
  steps : Nat → Nat
  script_eq : p'.script = p.script.map statement
  labels_eq : p'.labels = p.labels
  steps_succ : ∀ n, steps (n + 1) = steps n + 1
  argument_eq : ∀ t s i, argument (vars t) (statement s) i = argument t s i
  request_eq : ∀ bridged t s,
    request p' bridged (vars t) (statement s) = request p bridged t s
  /-- An assignment keeps the line of its statement. -/
  vars_put : ∀ t s name type value,
    (vars t).put name { name, type, value, line := (statement s).line } =
      vars (t.put name { name, type, value, line := s.line })

/-- One step more has been counted. -/
def Disguise.counted (p : Program) : Disguise p p where
  statement s := s
  vars t := t
  steps n := n + 1
  script_eq := (List.map_id p.script).symm
  labels_eq := rfl
  steps_succ _ := rfl
  argument_eq _ _ _ := rfl
  request_eq _ _ _ := rfl
  vars_put _ _ _ _ _ := rfl

namespace Disguise

variable (d : Disguise p p') (x : Session ω β)

/-- The changed state. -/
def state (s : State) : State := { s with vars := d.vars s.vars, steps := d.steps s.steps }

/-- The session with its state changed. -/
def session : Session ω β := { x with state := d.state x.state }

@[simp] theorem state_vars (s : State) : (d.state s).vars = d.vars s.vars := rfl

@[simp] theorem state_phase (s : State) : (d.state s).phase = s.phase := rfl

@[simp] theorem state_pc (s : State) : (d.state s).pc = s.pc := rfl

@[simp] theorem session_state : (d.session x).state = d.state x.state := rfl

@[simp] theorem session_output : (d.session x).output = x.output := rfl

@[simp] theorem session_game : (d.session x).game = x.game := rfl

/-! ## Requests -/

theorem say (h : Host ω β) (line : Text) :
    (d.session x).say h line = ((x.say h line).1, d.session (x.say h line).2) := by
  unfold Session.say
  rw [session_output]
  rcases h.appendLine line x.output with ⟨_ | _, output⟩ <;> rfl

theorem send (b : Bridge β) (c : GameCommand) :
    (d.session x).send b c = ((x.send b c).1, d.session (x.send b c).2) := by
  unfold Session.send
  rw [session_game]
  rcases b.send c x.game with ⟨_ | _, game⟩ <;> rfl

theorem check (b : Bridge β) (s : Statement) (person item : Text) :
    (d.session x).check p' b (d.statement s) person item =
      ((x.check p b s person item).1, d.session (x.check p b s person item).2) := by
  unfold Session.check
  rw [session_game, session_state, state_vars, d.labels_eq]
  simp only [d.argument_eq]
  rcases b.checkHas person item x.game with ⟨_ | passed, game⟩
  · rfl
  · dsimp only
    cases argument x.state.vars s (if passed = true then 2 else 3) <;> rfl

/-- **A request is fulfilled alike.** Only an assignment writes what a change may touch. -/
theorem fulfil (h : Host ω β) (s : Statement) (r : Request) :
    (d.session x).fulfil h p' (d.statement s) r =
      ((x.fulfil h p s r).1, d.session (x.fulfil h p s r).2) := by
  cases r with
  | nothing | wait _ => rfl
  | jump marker => rw [Session.fulfil, Session.fulfil, d.labels_eq]
  | say line =>
    rw [Session.fulfil, Session.fulfil, d.say]
    rcases x.say h line with ⟨_ | _, y⟩ <;> rfl
  | assign name type value =>
    rw [Session.fulfil, Session.fulfil]
    split
    · rfl
    · have hput := d.vars_put x.state.vars s name type value
      simp only [session_state, state_vars, hput]
      rfl
  | offer offers =>
    rw [Session.fulfil, Session.fulfil]
    split <;> rfl
  | check person item =>
    rw [Session.fulfil, Session.fulfil]
    cases h.bridge with
    | none => rfl
    | some b => exact d.check x b s person item
  | send c =>
    rw [Session.fulfil, Session.fulfil]
    cases h.bridge with
    | none => rfl
    | some b =>
      dsimp only
      rw [d.send]
      rcases x.send b c with ⟨_ | _, y⟩ <;> rfl

theorem perform (h : Host ω β) (s : Statement) :
    (d.session x).perform h p' (d.statement s) =
      ((x.perform h p s).1, d.session (x.perform h p s).2) := by
  unfold Session.perform
  rw [session_state, state_vars, d.request_eq]
  cases request p h.bridge.isSome x.state.vars s with
  | error e => rfl
  | ok r => exact d.fulfil x h s r

/-! ## Steps -/

theorem count : (d.session x).count = d.session x.count := by
  have hsteps := d.steps_succ x.state.steps
  simp only [Session.count, session, state, hsteps]

theorem settle (s : State) : State.settle p' (d.state s) = d.state (State.settle p s) := by
  unfold State.settle
  rw [d.script_eq, List.length_map, state_phase, state_pc]
  split <;> rfl

theorem goto (pc : Nat) : (d.session x).goto p' pc = d.session (x.goto p pc) :=
  congrArg (fun state => { x with state }) (d.settle { x.state with pc })

/-- **A step of the changed machine is the step changed.** -/
theorem step (h : Host ω β) :
    (d.session x).step h p' = ((x.step h p).1, d.session (x.step h p).2) := by
  unfold Session.step
  rw [session_state, state_phase, state_pc, d.count, d.script_eq, List.getElem?_map]
  split
  · cases p.script[x.state.pc]? with
    | none => rfl
    | some s =>
      simp only [Option.map_some, d.perform]
      rcases x.count.perform h p s with ⟨f | target, y⟩
      · rfl
      · exact congrArg (Prod.mk none) (d.goto y (target.getD (y.state.pc + 1)))
  · rfl

end Disguise

end Dialogue.Machine
