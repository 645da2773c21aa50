import Dialogue.Proofs.Machine.Limits
import Dialogue.Proofs.Script.Forms
import Dialogue.Proofs.Script.Literal
import Dialogue.Proofs.Table

/-!
# Assignments

A declaring command takes the text of a value and stores what it reads in it. Where the text is that
of another variable, this is a way through the digits of an integer or the word of a truth value and
back again, and nothing is lost on it.

* `store`: the variables after a value has been stored under a name. `get?_store` says what they
  hold, `values_store` that a value that was there is stored without changing any;
* `Reads`: what a declaring command reads in a text; `request_of_reads` is the request that it makes;
* `Assigns`: a statement that is carried out and stores a value, with `assigns_of_reads`;
* `reads_display`: a value that can be displayed is read back by the command of its type;
* **`copies_variable`**: a variable is copied exactly.
-/

namespace Dialogue.Machine

open Text Script

variable {ω β : Type} {h : Host ω β} {p : Program} {x : Session ω β} {st : Statement}
  {vars : Table Variable} {bridged : Bool} {name text : Text} {value : Scalar}

/-! ## Storing -/

/-- The variables after a statement on line `line` has stored a value under a name. -/
def store (vars : Table Variable) (line : Int) (name : Text) (value : Scalar) : Table Variable :=
  vars.put name { name, type := valueType value, value, line }

theorem get?_store (vars : Table Variable) (line : Int) (name : Text) (value : Scalar)
    (other : Text) : (store vars line name value).get? other =
      if name = other then some { name, type := valueType value, value, line }
      else vars.get? other :=
  Table.get?_put name _ vars other

/-- Storing a value where it is already changes no value. -/
theorem values_store {v : Variable} (hv : vars.get? name = some v) (line : Int) :
    (store vars line name v.value).mapValues Variable.value = vars.mapValues Variable.value := by
  have hvalue : (vars.mapValues Variable.value).get? name = some v.value := by
    rw [Table.get?_mapValues, hv]
    rfl
  rw [store, ← Table.put_mapValues]
  exact Table.put_of_get? hvalue

/-! ## Reading the text of a value -/

/-- What the command that declares the type of the value reads in a text. -/
inductive Reads (text : Text) : Scalar → Prop
  | int {i : Int} (hi : leadingInteger text = .ok i) : Reads text (.int i)
  | bool : Reads text (.bool (truth text))
  | text : Reads text (.text text)

/-- **A declaring command asks for what it reads in its second parameter** to be stored under the
name in its first one. -/
theorem request_of_reads (hdeclares : st.verb?.bind Verb.declares = some (valueType value))
    (hname : argument vars st 0 = .ok name) (htext : argument vars st 1 = .ok text)
    (hvalue : Reads text value) :
    request p bridged vars st = .ok (.assign name (valueType value) value) := by
  obtain ⟨verb, hverb, htype⟩ := Option.bind_eq_some_iff.mp hdeclares
  unfold request
  rw [hverb]
  cases hvalue with
  | int hi =>
    obtain rfl : verb = .setInt := by cases verb <;> first | rfl | cases htype
    simp only [htext, hname]
    change (leadingInteger text).bind _ = _
    rw [hi]
    rfl
  | bool =>
    obtain rfl : verb = .setBool := by cases verb <;> first | rfl | cases htype
    simp only [htext, hname]
    rfl
  | text =>
    obtain rfl : verb = .setString := by cases verb <;> first | rfl | cases htype
    simp only [htext, hname]
    rfl

/-- Carrying the statement out stores the value under the name and does nothing else: the host is not
called, and a step that begins at the statement goes on at the next one. -/
structure Assigns (h : Host ω β) (p : Program) (x : Session ω β) (st : Statement) (name : Text)
    (value : Scalar) : Prop where
  performed : x.perform h p st = (.ok none, { x with
    state := { x.state with vars := store x.state.vars st.line name value } })
  stepped : x.state.phase = .running → p.script[x.state.pc]? = some st →
    x.step h p = (none, { x with
      state := State.settle p { x.state with
        vars := store x.state.vars st.line name value
        steps := x.state.steps + 1
        pc := x.state.pc + 1 } })

theorem assigns_of_reads (hdeclares : st.verb?.bind Verb.declares = some (valueType value))
    (hname : argument x.state.vars st 0 = .ok name)
    (htext : argument x.state.vars st 1 = .ok text) (hvalue : Reads text value)
    (hne : name ≠ []) : Assigns h p x st name value := by
  have hperform : ∀ y : Session ω β, y.state.vars = x.state.vars →
      y.perform h p st = (.ok none, { y with
        state := { y.state with vars := store y.state.vars st.line name value } }) := by
    intro y hy
    rw [Session.perform_of_ok (request_of_reads hdeclares (hy ▸ hname) (hy ▸ htext) hvalue)]
    simp only [Session.fulfil, List.isEmpty_iff, if_neg hne]
    rfl
  refine ⟨hperform x rfl, fun hrun hst => ?_⟩
  rw [Session.step_of_ok hrun hst (hperform x.count rfl)]
  rfl

/-! ## Two parameters -/

/-- The first parameter of two, when the first one is a literal. -/
theorem argument_of_literal {token : Text}
    (hparams : st.params = [Param.ofToken (enquote name), Param.ofToken token]) :
    argument vars st 0 = .ok name := by
  have hhead : st.positional[0]? = some (Param.literal name) := by
    rw [Statement.positional, hparams, Param.ofToken_enquote]
    rfl
  rw [argument, hhead]
  exact resolve_literal vars name

/-- The second parameter of two, when the first one is a literal and the second one has no name. -/
theorem argument_of_positional {token : Text}
    (hparams : st.params = [Param.ofToken (enquote name), Param.ofToken token])
    (hnone : splitNamed token = none) :
    argument vars st 1 = resolve vars (Param.ofToken token) := by
  have hpositional : (Param.ofToken token).isPositional = true := by
    rw [Param.ofToken, hnone]
    rfl
  have hsecond : st.positional[1]? = some (Param.ofToken token) := by
    rw [Statement.positional, hparams, Param.ofToken_enquote, List.filter_cons_of_pos rfl,
      List.filter_cons_of_pos hpositional]
    rfl
  rw [argument, hsecond]
  rfl

/-! ## Copies -/

/-- **What is displayed is read back.** -/
theorem reads_displayValue {value : Scalar} {text : Text} (h : displayValue value = .ok text) :
    Reads text value := by
  cases value with
  | int i =>
    obtain ⟨hwritable, rfl⟩ := limitedDecimal_eq_ok_iff.mp h
    exact .int (leadingInteger_decimal (Nat.le_of_not_lt hwritable))
  | bool b =>
    obtain rfl := Except.ok.inj h
    have hb : Reads (ofString (if b then "true" else "false")) (.bool (truth _)) := .bool
    cases b <;> exact hb
  | text t =>
    obtain rfl := Except.ok.inj h
    exact .text

/-- **A variable is copied exactly.** In every state that a machine can reach, the command that
declares the type of a variable's value stores that value under the name in the literal that it is
given with a reference to the variable, whatever the value looks like. No other variable changes,
nothing is displayed, and where the variable is copied to itself all values stay as they are. -/
theorem copies_variable (hx : Reachable p x) {v : Variable}
    (hv : x.state.vars.get? name = some v) (hname : isIdentifier name = true) {target : Text}
    (htarget : target ≠ [])
    (hdeclares : st.verb?.bind Verb.declares = some (valueType v.value))
    (hparams : st.params = [Param.ofToken (enquote target), Param.ofToken ('$' :: name)])
    (h : Host ω β) :
    Assigns h p x st target v.value ∧
    (store x.state.vars st.line target v.value).get? target =
      some { name := target, type := valueType v.value, value := v.value, line := st.line } ∧
    (∀ other, other ≠ target →
      (store x.state.vars st.line target v.value).get? other = x.state.vars.get? other) ∧
    (target = name → (store x.state.vars st.line target v.value).mapValues Variable.value =
      x.state.vars.mapValues Variable.value) := by
  have href : referenceName? ('$' :: name) = some name :=
    referenceName?_eq_some_iff.mpr ⟨rfl, hname⟩
  have hnone : splitNamed ('$' :: name) = none :=
    splitNamed_of_not_mem (not_mem_of_reference href (by decide) (by decide))
  obtain ⟨text, hdisplay⟩ := hx.displayable.value hv
  have htext : argument x.state.vars st 1 = .ok text := by
    rw [argument_of_positional hparams hnone, Param.ofToken, hnone]
    refine (resolve_reference href).trans ?_
    rw [display, hv]
    exact hdisplay
  refine ⟨assigns_of_reads hdeclares (argument_of_literal hparams) htext
    (reads_displayValue hdisplay) htarget, ?_, fun other hother => ?_, ?_⟩
  · rw [get?_store, if_pos rfl]
  · rw [get?_store, if_neg fun hsame => hother hsame.symm]
  · rintro rfl
    exact values_store hv st.line

/-- A text that looks like an interpolated string and has blanks around it. -/
def disguised : Text := ofString " $\"\x7bs\x7d\" "

/-- A statement that copies a text. -/
def copying : Statement where
  command := ofString "Set_StringVar"
  params := [Param.ofToken (enquote (ofString "copy")), Param.ofToken (ofString "$s")]
  line := 1

/-- A script that stores the text and copies it. -/
def copies : Program where
  script :=
    [{ command := ofString "Set_StringVar",
       params := [Param.ofToken (enquote (ofString "s")), Param.ofToken (enquote disguised)] },
      copying]
  catalog := { table := [], aliases := [] }

theorem copies_variable_disguised : ∃ x : Session Unit Unit, Reachable copies x ∧
    x.state.phase = .running ∧ copies.script[x.state.pc]? = some copying ∧
    x.state.vars = store [] 0 (ofString "s") (.text disguised) ∧
    Assigns Host.eager copies x copying (ofString "copy") (.text disguised) ∧
    (x.step Host.eager copies).2.state.vars.get? (ofString "copy") =
      some ⟨ofString "copy", .string, .text disguised, 1⟩ := by
  let x : Session Unit Unit := ((Session.fresh copies () ()).step Host.eager copies).2
  have hx : Reachable copies x := ⟨(), (), .single (.step Host.eager _)⟩
  have hv : x.state.vars.get? (ofString "s") =
      some ⟨ofString "s", .string, .text disguised, 0⟩ := by decide
  have htarget : ofString "copy" ≠ [] := by decide
  have hdeclares : copying.verb?.bind Verb.declares = some (valueType (.text disguised)) := rfl
  obtain ⟨hassigns, -⟩ := copies_variable hx hv (by decide) htarget hdeclares rfl
    (Host.eager : Host Unit Unit)
  exact ⟨x, hx, by decide, by decide, by decide, hassigns, by decide⟩

end Dialogue.Machine
