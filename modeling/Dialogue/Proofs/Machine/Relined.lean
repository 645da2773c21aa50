import Dialogue.Proofs.Machine.Disguise
import Dialogue.Proofs.Machine.Likeness
import Dialogue.Proofs.Machine.Transition
import Dialogue.Proofs.Script.InertLine

/-!
# A machine does not read line numbers

A statement carries the number of its line, and a variable that of the line that set it last. A
machine copies the one to the other and never looks at either, so that the same script with its
statements at other lines is carried out in the same way, call for call.

* `Relined`: the same program with its statements at other lines;
* `State.relined`, `Session.relined`, `Turn.relined`: the same with variables set at other lines;
* `request_relined`: every statement asks for the same, so that other lines are a disguise that no step
  sees through (`Relined.disguise`);
* `Session.step_relined`: one step; `Relined.likeness`: nothing else in a run sees through it either;
* **`Session.run_relined`**: a run of the one is a run of the other.
-/

namespace Dialogue

open Text Script

/-- The variable set at another line. -/
def Machine.Variable.relined (g : Int → Int) (v : Variable) : Variable :=
  { v with line := g v.line }

namespace Machine

namespace State

/-- The state with its variables set at other lines. -/
def relined (g : Int → Int) (s : State) : State :=
  { s with vars := s.vars.mapValues (Variable.relined g) }

variable (g : Int → Int) (s : State)

@[simp] theorem relined_pc : (s.relined g).pc = s.pc := rfl

@[simp] theorem relined_phase : (s.relined g).phase = s.phase := rfl

@[simp] theorem relined_offers : (s.relined g).offers = s.offers := rfl

end State

variable {ω β : Type}

/-- The session with its variables set at other lines. -/
def Session.relined (g : Int → Int) (x : Session ω β) : Session ω β :=
  { x with state := x.state.relined g }

/-- The turn with the variables set at other lines. -/
def Turn.relined (g : Int → Int) : Turn ω β → Turn ω β
  | .again x => .again (x.relined g)
  | .ended x => .ended (x.relined g)
  | .held x => .held (x.relined g)
  | .escaped t x => .escaped t (x.relined g)

/-- The program `p'` is `p` with its statements at other lines. -/
structure Relined (g : Int → Int) (p p' : Program) : Prop where
  script : p'.script = p.script.map (Statement.relined g)
  catalog : p'.catalog = p.catalog
  waitScale : p'.waitScale = p.waitScale

variable {g : Int → Int} {p p' : Program}

/-! ## Labels -/

theorem enterLabels_relined (g : Int → Int) (script : List Statement) (first : Nat)
    (table : Table Nat) :
    enterLabels first table (script.map (Statement.relined g)) = enterLabels first table script := by
  induction script generalizing first table with
  | nil => rfl
  | cons s rest ih =>
    rw [List.map_cons, enterLabels, enterLabels, Statement.relined_marker?, ih]

theorem Relined.labels (hp : Relined g p p') : p'.labels = p.labels := by
  rw [p'.labels_eq, p.labels_eq, hp.script]
  exact enterLabels_relined g p.script 0 []

/-! ## Requests -/

theorem display_relined (g : Int → Int) (vars : Table Variable) :
    display (vars.mapValues (Variable.relined g)) = display vars := by
  funext name
  unfold display
  rw [Table.get?_mapValues]
  cases vars.get? name <;> rfl

theorem resolve_relined (g : Int → Int) (vars : Table Variable) :
    resolve (vars.mapValues (Variable.relined g)) = resolve vars := by
  funext q
  unfold resolve
  rw [display_relined]

theorem resolve?_relined (g : Int → Int) (vars : Table Variable) (q : Option Param) :
    resolve? (vars.mapValues (Variable.relined g)) q = resolve? vars q := by
  cases q with
  | none => rfl
  | some q => exact congrFun (resolve_relined g vars) q

theorem argument_relined (g : Int → Int) (vars : Table Variable) (s : Statement) (i : Nat) :
    argument (vars.mapValues (Variable.relined g)) (s.relined g) i = argument vars s i :=
  resolve?_relined g vars s.positional[i]?

theorem resolveAll_relined (g : Int → Int) (vars : Table Variable) (ps : List Param) :
    resolveAll (vars.mapValues (Variable.relined g)) ps = resolveAll vars ps := by
  induction ps with
  | nil => rfl
  | cons q ps ih => rw [resolveAll, resolveAll, resolve_relined, ih]

theorem resolveOptions_relined (g : Int → Int) (vars : Table Variable) (ps : List Param)
    (table : Table Text) :
    resolveOptions (vars.mapValues (Variable.relined g)) table ps =
      resolveOptions vars table ps := by
  induction ps generalizing table with
  | nil => rfl
  | cons q ps ih =>
    unfold resolveOptions
    simp only [resolve_relined, ih]

theorem gameCommand_relined (g : Int → Int) (vars : Table Variable) (c : Contract)
    (s : Statement) :
    gameCommand (vars.mapValues (Variable.relined g)) c (s.relined g) = gameCommand vars c s := by
  unfold gameCommand
  rw [Statement.relined_positional, Statement.relined_params, resolveAll_relined,
    resolveOptions_relined]

theorem offersFrom_relined (g : Int → Int) (vars : Table Variable) (s : Statement) (slot : Nat)
    (ps : List Param) :
    offersFrom (vars.mapValues (Variable.relined g)) (s.relined g) slot ps =
      offersFrom vars s slot ps := by
  induction ps generalizing slot with
  | nil => rfl
  | cons q ps ih =>
    unfold offersFrom
    simp only [resolve_relined, resolve?_relined, Statement.relined_named, ih]

theorem forward_relined (hp : Relined g p p') (bridged : Bool) (vars : Table Variable)
    (s : Statement) :
    forward p' bridged (vars.mapValues (Variable.relined g)) (s.relined g) =
      forward p bridged vars s := by
  have hline : unhandledLine (s.relined g) = unhandledLine s := rfl
  unfold forward
  rw [hp.catalog, Statement.relined_command, hline]
  simp only [gameCommand_relined]

/-- **The statement asks for the same.** -/
theorem request_relined (hp : Relined g p p') (bridged : Bool) (vars : Table Variable)
    (s : Statement) :
    request p' bridged (vars.mapValues (Variable.relined g)) (s.relined g) =
      request p bridged vars s := by
  unfold request
  rw [Statement.relined_verb?, Statement.relined_positional, forward_relined hp]
  simp only [argument_relined, offersFrom_relined]

/-- Other lines are a disguise: what the machine writes of them is the line of the statement. -/
def Relined.disguise (hp : Relined g p p') : Disguise p p' where
  statement := Statement.relined g
  vars := Table.mapValues (Variable.relined g)
  steps n := n
  script_eq := hp.script
  labels_eq := hp.labels
  steps_succ _ := rfl
  argument_eq := argument_relined g
  request_eq := request_relined hp
  vars_put vars s name type value :=
    Table.put_mapValues (Variable.relined g) name { name, type, value, line := s.line } vars

/-! ## Steps -/

theorem State.settle_relined (hp : Relined g p p') (s : State) :
    State.settle p' (s.relined g) = (State.settle p s).relined g := hp.disguise.settle s

/-- **One step.** -/
theorem Session.step_relined (hp : Relined g p p') (h : Host ω β) (x : Session ω β) :
    (x.relined g).step h p' = ((x.step h p).1, (x.step h p).2.relined g) := hp.disguise.step x h

/-! ## Runs -/

theorem State.resumeTimer_relined (hp : Relined g p p') (s : State) :
    (s.relined g).resumeTimer p' = (s.resumeTimer p).map (State.relined g) := by
  unfold State.resumeTimer
  rw [State.relined_phase]
  split
  · exact congrArg Except.ok (State.settle_relined hp { s with waitMs := 0, phase := .running })
  · rfl

theorem State.resumeChoice_relined (hp : Relined g p p') (s : State) (index : Option Int) :
    (s.relined g).resumeChoice p' index = (s.resumeChoice p index).map (State.relined g) := by
  have htarget : ∀ offer, (s.relined g).target p' offer = s.target p offer := by
    intro offer
    unfold State.target
    rw [hp.labels, State.relined_pc]
  unfold State.resumeChoice
  rw [State.relined_phase, State.relined_offers]
  split
  · cases index with
    | none => rfl
    | some i =>
      dsimp only
      split
      · rfl
      · split
        · rfl
        · rename_i offer _
          rw [htarget]
          exact congrArg Except.ok (State.settle_relined hp
            { s with offers := none, pc := s.target p offer, phase := .running })
  · rfl

/-- Other lines are noticed neither by a step nor by anything else in a run. -/
def Relined.likeness (hp : Relined g p p') (h : Host ω β) : Likeness h h p p' where
  state := State.relined g
  game b := b
  appendLine_eq := rfl
  choose_eq := rfl
  sleep_eq := rfl
  waitScale_eq := hp.waitScale
  phase_eq _ := rfl
  steps_eq _ := rfl
  waitMs_eq _ := rfl
  options_eq _ := rfl
  noted_eq _ _ := rfl
  finish_eq _ _ := rfl
  resumeTimer_eq := State.resumeTimer_relined hp
  resumeChoice_eq := State.resumeChoice_relined hp

theorem Relined.likeness_turn (hp : Relined g p p') (h : Host ω β) :
    (hp.likeness h).turn = Turn.relined g := by
  funext t
  cases t <;> rfl

theorem Session.fresh_relined (hp : Relined g p p') (output : ω) (game : β) :
    Session.fresh p' output game = (Session.fresh p output game).relined g := by
  have hinitial : State.initial p' = (State.initial p).relined g := State.settle_relined hp {}
  rw [Session.fresh, hinitial]
  rfl

/-- **A run of the one program is a run of the other,** with the same calls to the host and the same
answers, up to the lines that the variables name. -/
theorem Session.run_relined (hp : Relined g p p') (h : Host ω β) (limit : Option Int) (fuel : Nat)
    (x : Session ω β) :
    (x.relined g).run h p' limit fuel = (x.run h p limit fuel).map (Turn.relined g) := by
  rw [← hp.likeness_turn h]
  exact (hp.likeness h).run_eq (P := fun _ => True) (fun y _ => Session.step_relined hp h y)
    (fun _ _ _ _ => trivial) fuel trivial

end Machine

end Dialogue
