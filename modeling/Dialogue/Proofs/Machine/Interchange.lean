import Dialogue.Machine.Run

/-!
# Statements that can be put for each other

Of its statement a machine reads the command by its key, the unnamed parameters by their position, the
named ones by their name, and the number of the line. Where all of these are the same, a statement can
stand for another one: each of the machine's own commands does the same. What the machine does not carry
out itself it writes out or forwards with all parameters as they stand, and there the two may differ.

* `Statement.Agree`: two statements that are read alike;
* `request_agree`: they ask for the same, if they are also forwarded alike where the machine does not
  carry them out itself (`Statement.CarriedOut`);
* `Program.Parallel`: two programs with the same markers and catalog;
* **`Session.step_agree`**: one step at statements that ask for the same;
* **`Session.run_parallel`**: programs with the same steps have the same runs.
-/

namespace Dialogue

open Text Script

/-- The machine reads the two statements alike. -/
structure Statement.Agree (s s' : Statement) : Prop where
  key : s'.key = s.key
  line : s'.line = s.line
  positional : s'.positional = s.positional
  named : ∀ name, s'.named (some name) = s.named (some name)

namespace Statement.Agree

variable {s s' : Statement}

theorem verb? (h : s.Agree s') : s'.verb? = s.verb? := by
  unfold Statement.verb?
  rw [h.key]

theorem find? (h : s.Agree s') (catalog : Catalog) :
    catalog.find? s'.command = catalog.find? s.command :=
  congrArg catalog.table.get? h.key

end Statement.Agree

/-- The machine carries the statement out itself, when a game is there (`bridged`) or not. -/
def Statement.CarriedOut (s : Statement) (bridged : Bool) : Prop :=
  ∃ v, s.verb? = some v ∧ (v = .check → bridged = true)

namespace Machine

variable {ω β : Type} {h : Host ω β} {p p' : Program} {bridged : Bool} {vars : Table Variable}
  {s s' : Statement} {x : Session ω β}

/-! ## Requests -/

theorem argument_agree (hs : s.Agree s') (vars : Table Variable) (i : Nat) :
    argument vars s' i = argument vars s i := by
  unfold argument
  rw [hs.positional]

theorem offersFrom_agree (hs : s.Agree s') (vars : Table Variable) (slot : Nat) (ps : List Param) :
    offersFrom vars s' slot ps = offersFrom vars s slot ps := by
  induction ps generalizing slot with
  | nil => rfl
  | cons q ps ih =>
    unfold offersFrom
    simp only [hs.named, ih]

/-- **Statements that are read alike ask for the same**, if they are forwarded alike where the machine
does not carry them out itself. -/
theorem request_agree (hs : s.Agree s')
    (hforward : s.CarriedOut bridged ∨ forward p' bridged vars s' = forward p bridged vars s) :
    request p' bridged vars s' = request p bridged vars s := by
  have hleft : s.verb? = none ∨ s.verb? = some .check ∧ bridged = false →
      forward p' bridged vars s' = forward p bridged vars s := by
    intro hleft
    rcases hforward with ⟨v, hv, hcheck⟩ | hforward
    · rcases hleft with hnone | ⟨hverb, hbridged⟩
      · cases hnone.symm.trans hv
      · obtain rfl := Option.some.inj (hverb.symm.trans hv)
        cases hbridged.symm.trans (hcheck rfl)
    · exact hforward
  unfold request
  rw [hs.verb?]
  simp only [argument_agree hs, offersFrom_agree hs, hs.positional]
  cases hverb : s.verb? with
  | none => exact hleft (.inl hverb)
  | some v =>
    cases v with
    | check =>
      cases bridged with
      | true => rfl
      | false => exact hleft (.inr ⟨hverb, rfl⟩)
    | _ => rfl

/-! ## Steps -/

/-- The two programs have as many statements, and the same markers, catalog and waits. -/
structure Program.Parallel (p p' : Program) : Prop where
  length : p'.script.length = p.script.length
  labels : p'.labels = p.labels
  catalog : p'.catalog = p.catalog
  waitScale : p'.waitScale = p.waitScale

theorem Program.Parallel.refl (p : Program) : p.Parallel p := ⟨rfl, rfl, rfl, rfl⟩

/-- A request of statements that are read alike is fulfilled alike. -/
theorem Session.fulfil_agree (hp : p.Parallel p') (hs : s.Agree s') (r : Request) :
    x.fulfil h p' s' r = x.fulfil h p s r := by
  have hcheck : ∀ b person item, x.check p' b s' person item = x.check p b s person item := by
    intro b person item
    unfold Session.check
    simp only [argument_agree hs, hp.labels]
  unfold Session.fulfil
  simp only [hcheck, hs.line, hp.labels]

theorem Session.perform_agree (hp : p.Parallel p') (hs : s.Agree s')
    (hforward : s.CarriedOut h.bridge.isSome ∨
      forward p' h.bridge.isSome x.state.vars s' = forward p h.bridge.isSome x.state.vars s) :
    x.perform h p' s' = x.perform h p s := by
  unfold Session.perform
  rw [request_agree hs hforward]
  simp only [Session.fulfil_agree hp hs]

theorem State.settle_parallel (hp : p.Parallel p') : State.settle p' = State.settle p := by
  funext t
  unfold State.settle
  rw [hp.length]

/-- **One step**, at statements that are read alike. -/
theorem Session.step_agree (hp : p.Parallel p') (hs : p.script[x.state.pc]? = some s)
    (hs' : p'.script[x.state.pc]? = some s') (hagree : s.Agree s')
    (hforward : s.CarriedOut h.bridge.isSome ∨
      forward p' h.bridge.isSome x.state.vars s' = forward p h.bridge.isSome x.state.vars s) :
    x.step h p' = x.step h p := by
  have hperform : x.count.perform h p' s' = x.count.perform h p s :=
    Session.perform_agree hp hagree hforward
  have hgoto : ∀ (y : Session ω β) pc, y.goto p' pc = y.goto p pc := by
    intro y pc
    unfold Session.goto
    rw [State.settle_parallel hp]
  unfold Session.step
  simp only [hs, hs', hperform, hgoto]

/-! ## Runs -/

theorem State.resumeTimer_parallel (hp : p.Parallel p') (t : State) :
    t.resumeTimer p' = t.resumeTimer p := by
  unfold State.resumeTimer
  rw [State.settle_parallel hp]

theorem State.resumeChoice_parallel (hp : p.Parallel p') (t : State) (index : Option Int) :
    t.resumeChoice p' index = t.resumeChoice p index := by
  unfold State.resumeChoice State.target
  rw [State.settle_parallel hp, hp.labels]

/-- Of a program a turn sees the step, the markers, the waits, and where it ends. -/
theorem Session.turn_parallel (hp : p.Parallel p') (hstep : x.step h p' = x.step h p)
    (limit : Option Int) : x.turn h p' limit = x.turn h p limit := by
  unfold Session.turn Session.awaitTimer Session.awaitChoice Session.advance
  simp only [hp.waitScale, State.resumeTimer_parallel hp, State.resumeChoice_parallel hp, hstep]

/-- **Programs with the same steps have the same runs.** -/
theorem Session.run_parallel (hp : p.Parallel p') (hstep : ∀ x, Session.step h p' x = x.step h p)
    (limit : Option Int) (fuel : Nat) (x : Session ω β) :
    x.run h p' limit fuel = x.run h p limit fuel := by
  induction fuel generalizing x with
  | zero => rfl
  | succ fuel ih =>
    unfold Session.run
    rw [Session.turn_parallel hp (hstep x)]
    cases x.turn h p limit with
    | again y => exact ih y
    | ended y | held y | escaped t y => rfl

end Machine

end Dialogue
