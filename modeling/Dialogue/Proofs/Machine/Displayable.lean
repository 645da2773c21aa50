import Dialogue.Proofs.Machine.Invariant
import Dialogue.Proofs.Text.Numeral

/-!
# What can be displayed

The text of a parameter is refused for the length of a number only: of one that is read in it, or of
one that a variable holds. No variable that a machine has set holds one of the second kind, since an
integer is read before it is stored; so every variable can be displayed, and what is refused is refused
for a number that was to be read.

* `resolve_refused`, `request_refused`: what resolving a parameter (`OysterVM.resolve`) and reading a
  statement are refused for, by what displaying a variable (`_display`) is refused for;
* `Displayable`: every variable can be displayed. `Transition.displayable` is the step, and
  **`Reachable.displayable`** says it of every machine that operations lead to.
-/

namespace Dialogue

open Text Script

/-! ## Reading a statement -/

theorem Value.ofToken_refused (raw : Text) :
    RefusedFor TooManyDigits.Reading (Value.ofToken raw) := by
  unfold Value.ofToken
  dsimp only
  split
  · exact refusedFor_ok _
  · exact refusedFor_ok _
  · exact refusedFor_ok _
  · split
    · exact (integer_refused _).map _
    · split
      · exact refusedFor_ok _
      · exact refusedFor_ok _

namespace Machine

variable {vars : Table Variable} {s : Statement}

theorem displayValue_refused (value : Scalar) :
    RefusedFor (fun e => maxDigits < e.digits) (displayValue value) := by
  cases value with
  | int i => exact limitedDecimal_refused i
  | bool b => exact refusedFor_ok _
  | text t => exact refusedFor_ok _

theorem display_refused (vars : Table Variable) (name : Text) :
    RefusedFor (fun e => maxDigits < e.digits) (display vars name) := by
  unfold display
  split
  · exact refusedFor_ok _
  · exact displayValue_refused _

section Refused

variable {P : TooManyDigits → Prop} (hread : ∀ e : TooManyDigits, e.Reading → P e)
  (hvars : ∀ name, RefusedFor P (display vars name))

include hread hvars

theorem resolve_refused (q : Param) : RefusedFor P (resolve vars q) := by
  refine ((Value.ofToken_refused q.raw).mono hread).bind fun v => ?_
  split
  · exact hvars _
  · refine (RefusedFor.mapM fun piece _ => ?_).map _
    cases piece with
    | char c => exact refusedFor_ok _
    | hole name => exact hvars name
  · exact refusedFor_pure _
  · exact refusedFor_pure _
  · exact refusedFor_pure _

theorem resolve?_refused (q : Option Param) : RefusedFor P (resolve? vars q) := by
  cases q with
  | none => exact refusedFor_ok _
  | some q => exact resolve_refused hread hvars q

theorem argument_refused (s : Statement) (i : Nat) : RefusedFor P (argument vars s i) :=
  resolve?_refused hread hvars _

theorem resolveAll_refused : ∀ qs : List Param, RefusedFor P (resolveAll vars qs)
  | [] => refusedFor_ok _
  | q :: qs =>
    (resolve_refused hread hvars q).bind fun _ =>
      (resolveAll_refused qs).bind fun _ => refusedFor_pure _

theorem resolveOptions_refused :
    ∀ (qs : List Param) (table : Table Text), RefusedFor P (resolveOptions vars table qs)
  | [], table => refusedFor_ok table
  | q :: qs, table => by
    rw [resolveOptions]
    split
    · exact resolveOptions_refused qs table
    · exact (resolve_refused hread hvars q).bind fun _ => resolveOptions_refused qs _

theorem offersFrom_refused (s : Statement) :
    ∀ (qs : List Param) (slot : Nat), RefusedFor P (offersFrom vars s slot qs)
  | [], slot => refusedFor_ok _
  | q :: qs, slot => by
    rw [offersFrom]
    refine (resolve_refused hread hvars q).bind fun text => ?_
    split
    · exact offersFrom_refused s qs (slot + 1)
    · exact (resolve?_refused hread hvars _).bind fun _ =>
        (offersFrom_refused s qs (slot + 1)).bind fun _ => refusedFor_pure _

theorem forward_refused (p : Program) (bridged : Bool) (s : Statement) :
    RefusedFor P (forward p bridged vars s) := by
  unfold forward
  split
  · refine RefusedFor.map ?_ _
    exact (resolveAll_refused hread hvars _).bind fun _ =>
      (resolveOptions_refused hread hvars _ _).bind fun _ => refusedFor_pure _
  · exact refusedFor_ok _

/-- **A statement is refused for a number with too many digits only**: for one that is read in it, or
for what a variable is refused for. -/
theorem request_refused (p : Program) (bridged : Bool) (s : Statement) :
    RefusedFor P (request p bridged vars s) := by
  have hargument := argument_refused hread hvars s
  have hinteger := fun text => (leadingInteger_refused text).mono hread
  unfold request
  split
  case h_1 => exact (hargument 0).map _ -- speak
  case h_2 | h_3 => exact refusedFor_ok _ -- mark, header
  case h_4 => exact (hargument 0).map _ -- jump
  case h_5 => -- setInt
    exact (hargument 1).bind fun text => (hinteger text).bind fun _ =>
      (hargument 0).bind fun _ => refusedFor_pure _
  case h_6 | h_7 => -- setBool, setString
    exact (hargument 1).bind fun _ => (hargument 0).bind fun _ => refusedFor_pure _
  case h_8 => -- wait
    exact (hargument 0).bind fun text => (hinteger text).bind fun _ => refusedFor_pure _
  case h_9 => exact (offersFrom_refused hread hvars s _ 1).map _ -- offer
  case h_10 => -- check
    split
    · exact (hargument 0).bind fun _ => (hargument 1).bind fun _ => refusedFor_pure _
    · exact forward_refused hread hvars p bridged s
  case h_11 => exact forward_refused hread hvars p bridged s

end Refused

/-- Whatever the variables hold, a number has too many digits if a parameter is refused. -/
theorem argument_refused_above (vars : Table Variable) (s : Statement) (i : Nat) :
    RefusedFor (fun e => maxDigits < e.digits) (argument vars s i) :=
  argument_refused (fun _ he => he.1) (display_refused vars) s i

theorem request_refused_above (p : Program) (bridged : Bool) (vars : Table Variable)
    (s : Statement) : RefusedFor (fun e => maxDigits < e.digits) (request p bridged vars s) :=
  request_refused (fun _ he => he.1) (display_refused vars) p bridged s

/-! ## Stored integers -/

/-- Every variable can be displayed. -/
def Displayable (vars : Table Variable) : Prop := ∀ name, ∃ t, display vars name = .ok t

theorem displayable_nil : Displayable [] := fun _ => ⟨[], rfl⟩

theorem Displayable.put {name : Text} {v : Variable} (hvars : Displayable vars)
    (hv : ∃ t, displayValue v.value = .ok t) : Displayable (vars.put name v) := by
  intro n
  have hn := hvars n
  unfold display at hn ⊢
  rw [Table.get?_put]
  by_cases hname : name = n
  · rw [if_pos hname]
    exact hv
  · rw [if_neg hname]
    exact hn

/-- The value of a variable can be written. -/
theorem Displayable.value {name : Text} {v : Variable} (hvars : Displayable vars)
    (hv : vars.get? name = some v) : ∃ t, displayValue v.value = .ok t := by
  obtain ⟨t, ht⟩ := hvars name
  rw [display, hv] at ht
  exact ⟨t, ht⟩

theorem Displayable.display_refused {P : TooManyDigits → Prop} (hvars : Displayable vars)
    (name : Text) : RefusedFor P (display vars name) := by
  obtain ⟨t, ht⟩ := hvars name
  rw [ht]
  exact refusedFor_ok t

variable {p : Program} {bridged : Bool}

/-- **What is assigned can be displayed**: an integer has been read. -/
theorem displayValue_of_assign {name : Text} {type : ParamType} {value : Scalar}
    (hr : request p bridged vars s = .ok (.assign name type value)) :
    ∃ t, displayValue value = .ok t := by
  cases requested hr with
  | setInt _ _ _ hi => exact ⟨_, limitedDecimal_of_leadingInteger hi⟩
  | setBool _ _ _ => exact ⟨_, rfl⟩
  | setString _ _ _ => exact ⟨_, rfl⟩

/-- **Every transition keeps the variables such that they can be displayed.** -/
theorem Transition.displayable {s t : State} (hst : Transition p s t)
    (hs : Displayable s.vars) : Displayable t.vars := by
  rcases hst.vars with heq | ⟨st, -, bridged, name, type, value, hr, -, heq⟩
  · rw [heq]
    exact hs
  · rw [heq]
    exact hs.put (displayValue_of_assign hr)

theorem State.initial_displayable (p : Program) : Displayable (State.initial p).vars := by
  rw [State.initial, State.settle_vars]
  exact displayable_nil

/-- **On every machine that operations lead to, all variables can be displayed.** -/
theorem Reachable.displayable {ω β : Type} {x : Session ω β} (hx : Reachable p x) :
    Displayable x.state.vars :=
  hx.induct (P := fun s => Displayable s.vars) (State.initial_displayable p) fun _ _ =>
    Transition.displayable

end Machine

end Dialogue
