import Dialogue.Catalog.Standard
import Dialogue.Proofs.Lint.Declarations
import Dialogue.Proofs.Machine.Displayable
import Dialogue.Proofs.Machine.Resolve
import Dialogue.Proofs.Script.Scan

/-!
# Variables have the types that the linter says

The linter reads declarations off the text of a script; the machine stores whatever its statements
assign, in whatever order jumps and choices lead through them. The two agree when every declaring
line names its variable by a quoted identifier, and no redeclaration is reported.

* `ofToken_quotedName`, `resolve_quotedName`: what the machine makes of a quoted identifier;
* `Named`: every declaring line names its variable by a quoted identifier;
* `assign_declares`: what a statement assigns is what its line declares;
* `Typed`: the invariant of the variables, kept by every transition (`Typed.transition`);
* **`reachable_typed`**: in every state that a machine can reach, variables have the types that the
  linter knows, and an accepted reference reads a value of the type that was asked for.
-/

namespace Dialogue.Lint

open Text Script Machine

/-! ## Quoted identifiers -/

/-- A quoted identifier is a positional parameter. -/
theorem ofToken_quotedName {t name : Text} (h : quotedName? t = some name) :
    Param.ofToken t = { value := stripQuotes t, raw := t } := by
  obtain ⟨hbody, hname⟩ := quotedName?_eq_some_iff.mp h
  have hmem : '=' ∉ name := not_mem_of_isIdentifier hname (by decide)
  have hequals : '=' ∉ t := by
    rw [quotedBody?_eq_some_iff.mp hbody]
    simpa using hmem
  rw [Param.ofToken, splitNamed, findTopLevel, findFrom_eq_none_of_not_mem hequals]
  rfl

variable {vars : Table Variable}

/-- **A quoted identifier is resolved to itself.** -/
theorem resolve_quotedName {p : Param} {name : Text} (h : quotedName? p.raw = some name) :
    resolve vars p = .ok name := by
  obtain ⟨hbody, hname⟩ := quotedName?_eq_some_iff.mp h
  have hslash : '\\' ∉ name := not_mem_of_isIdentifier hname (by decide)
  rw [resolve_quoted hbody, unescape_of_not_mem hslash]

/-! ## Assignments -/

variable {marks : List Text} {source : Text}

/-- Every declaring line that has parameters names its variable by a quoted identifier. -/
def Named (marks : List Text) (source : Text) : Prop :=
  ∀ raw ∈ splitLines source, ∀ command content v type token,
    commandLine? marks raw = some (command, content) → Verb.ofKey? (lower command) = some v →
      v.declares = some type → (splitParams content).head? = some token →
        (quotedName? token).isSome

/-- **What a statement assigns is what its line declares.** -/
theorem assign_declares (hnamed : Named marks source) {p : Program} {bridged : Bool}
    {s : Statement} (hs : s ∈ parse marks source) {name : Text} {type : ParamType} {value : Scalar}
    (hr : request p bridged vars s = .ok (.assign name type value)) (hname : name ≠ []) :
    ∃ raw ∈ splitLines source, Declares marks raw name type := by
  obtain ⟨i, raw, hraw, hline⟩ := mem_parse_iff.mp hs
  obtain ⟨hskip, command, content, hmatch, rfl⟩ := Statement.ofLine_eq_some_iff.mp hline
  obtain ⟨-, hverb, harg⟩ := request_sound hr
  obtain ⟨v, hv, htype⟩ := Option.bind_eq_some_iff.mp hverb
  have hmem := List.mem_of_getElem? hraw
  have hcommand : commandLine? marks raw = some (command, content) := by
    simp [commandLine?, hskip, hmatch]
  refine ⟨raw, hmem, command, content, v, hcommand, hv, htype, ?_⟩
  cases htokens : splitParams content with
  | nil =>
    -- without parameters the name is empty
    rw [argument, Statement.positional, htokens] at harg
    exact absurd (Except.ok.inj harg).symm hname
  | cons token rest =>
    have hquoted := hnamed raw hmem command content v type token hcommand hv htype
      (by rw [htokens]; rfl)
    obtain ⟨quoted, hquoted⟩ := Option.isSome_iff_exists.mp hquoted
    rw [argument, Statement.positional, htokens, List.map_cons, ofToken_quotedName hquoted] at harg
    have hres : resolve vars { value := stripQuotes token, raw := token } = .ok quoted :=
      resolve_quotedName hquoted
    obtain rfl : quoted = name := Except.ok.inj (hres.symm.trans harg)
    exact hquoted

/-! ## The invariant -/

/-- Every variable is known with the type that it has. -/
def Typed (facts : Facts) (vars : Table Variable) : Prop :=
  ∀ name v, vars.get? name = some v → facts.Knows name v.type

theorem typed_nil (facts : Facts) : Typed facts [] := by
  intro name v hv
  simp [Table.get?_nil] at hv

/-- **Every transition keeps the types of the variables** when no declarations are in conflict. -/
theorem Typed.transition {p : Program} (hscript : p.script = parse marks source)
    (hconflicts : (collectFacts marks source).conflicts = []) (hnamed : Named marks source)
    {s t : State} (hst : Transition p s t) (hs : Typed (collectFacts marks source) s.vars) :
    Typed (collectFacts marks source) t.vars := by
  rcases hst.vars with hvars | ⟨st, hmem, bridged, name, type, value, hr, hname, hvars⟩
  · rwa [hvars]
  · obtain ⟨raw, hraw, hdecl⟩ := assign_declares hnamed (hscript ▸ hmem) hr hname
    intro other v hv
    rw [hvars, Table.get?_put] at hv
    split_ifs at hv with hsame
    · obtain rfl := Option.some.inj hv
      exact hsame ▸ knows_of_declares hconflicts hraw hdecl
    · exact hs other v hv

theorem checkValue_reference {facts : Facts} {spec : ParamSpec} {place : Place} {token name : Text}
    (href : referenceName? token = some name) (h : checkValue facts spec place token = []) :
    facts.Knows name spec.type := by
  rw [checkValue, href] at h
  cases hd : facts.vars.get? name with
  | none => simp [hd] at h
  | some d =>
    refine ⟨d, hd, ?_⟩
    by_contra htype
    simp [hd, htype] at h

/-! ## Reachable states -/

variable {ω β : Type} {p : Program} {x : Session ω β} {catalog : Catalog} {ds : List Diagnostic}

/-- **Variables have the types that the linter says.** When no redeclaration is reported in a script
whose declaring lines name their variables, then in every state that a machine can reach in it every
variable is known with the type that it has; and a reference that is accepted for a parameter reads
nothing, the variable being unset, or the text of a value of the parameter's type. -/
theorem reachable_typed (hscript : p.script = parse marks source)
    (hlint : validate catalog marks source = .ok ds)
    (hcode : ∀ d ∈ ds, d.code ≠ ofString "VARIABLE_REDECLARED") (hnamed : Named marks source)
    (hx : Reachable p x) :
    Typed (collectFacts marks source) x.state.vars ∧
      ∀ spec place (q : Param) name, referenceName? q.raw = some name →
        checkValue (collectFacts marks source) spec place q.raw = [] →
          (x.state.vars.get? name = none ∧ resolve x.state.vars q = .ok []) ∨
          ∃ v text, x.state.vars.get? name = some v ∧ v.type = spec.type ∧
            valueType v.value = spec.type ∧ displayValue v.value = .ok text ∧
            resolve x.state.vars q = .ok text := by
  have hconflicts := conflicts_eq_nil_of_validate hlint hcode
  have htyped : Typed (collectFacts marks source) x.state.vars := by
    have hinit : Typed (collectFacts marks source) (State.initial p).vars := by
      rw [State.initial, State.settle_vars]
      exact typed_nil _
    exact Reachable.induct (P := fun s => Typed (collectFacts marks source) s.vars) hinit
      (fun s t hst hs => Typed.transition hscript hconflicts hnamed hst hs) hx
  refine ⟨htyped, fun spec place q name href hcheck => ?_⟩
  rw [resolve_reference href, display]
  cases hv : x.state.vars.get? name with
  | none => exact .inl ⟨rfl, rfl⟩
  | some v =>
    obtain ⟨d, hd, hspec⟩ := checkValue_reference href hcheck
    obtain ⟨d', hd', htype⟩ := htyped name v hv
    rw [hd] at hd'
    obtain rfl := Option.some.inj hd'
    have hvtype : v.type = spec.type := htype.symm.trans hspec
    obtain ⟨text, htext⟩ := hx.displayable.value hv
    exact .inr ⟨v, text, rfl, hvtype, (hx.sound.vars name v hv).2.2.trans hvtype, htext, htext⟩

/-- A script that sets a variable and waits for as long as it says. -/
def pause : Text := ofString "Set_IntVar [\"rest\", 30]\nSys_Wait [$rest]"

/-- The program of that script. -/
def pauseProgram : Program where
  script := parse defaultMarks pause
  catalog := Catalog.standard

/-- The machine that has set the variable. -/
def restSet : Session Rehearsal Unit :=
  ((Session.fresh pauseProgram {} ()).step (Host.rehearsed none) pauseProgram).2

/-- The parameter that names the variable. -/
def restParam : Param := { value := ofString "$rest", raw := ofString "$rest" }

theorem named_pause : Named defaultMarks pause := by
  intro raw hraw command content v type token hcommand hverb htype htoken
  have hlines : splitLines pause =
      [ofString "Set_IntVar [\"rest\", 30]", ofString "Sys_Wait [$rest]"] := by rfl
  rw [hlines] at hraw
  rcases List.mem_pair.mp hraw with rfl | rfl
  · have hread : commandLine? defaultMarks (ofString "Set_IntVar [\"rest\", 30]") =
        some (ofString "Set_IntVar", ofString "\"rest\", 30") := by rfl
    cases hread.symm.trans hcommand
    have hhead : (splitParams (ofString "\"rest\", 30")).head? = some (ofString "\"rest\"") := by rfl
    cases hhead.symm.trans htoken
    rfl
  · have hread : commandLine? defaultMarks (ofString "Sys_Wait [$rest]") =
        some (ofString "Sys_Wait", ofString "$rest") := by rfl
    cases hread.symm.trans hcommand
    have hwait : Verb.ofKey? (lower (ofString "Sys_Wait")) = some .wait := by rfl
    cases hwait.symm.trans hverb
    cases htype

theorem validate_pause : validate Catalog.standard defaultMarks pause = .ok [] :=
  validate_eq_nil rfl rfl

theorem reachable_typed_restSet : Reachable pauseProgram restSet ∧
    Typed (collectFacts defaultMarks pause) restSet.state.vars ∧
    ∃ v text, restSet.state.vars.get? (ofString "rest") = some v ∧ v.type = .int ∧
      displayValue v.value = .ok text ∧ resolve restSet.state.vars restParam = .ok text := by
  have hx : Reachable pauseProgram restSet := ⟨{}, (), .single (.step _ _)⟩
  obtain ⟨htyped, hread⟩ := reachable_typed rfl validate_pause (by simp) named_pause hx
  have hcheck : checkValue (collectFacts defaultMarks pause)
      { name := ofString "time", type := .int } (.positional (ofString "time")) restParam.raw =
        [] := by rfl
  rcases hread _ _ restParam (ofString "rest") rfl hcheck with
    ⟨hunset, -⟩ | ⟨v, text, hv, htype, -, hshown, hres⟩
  · cases hunset
  · exact ⟨hx, htyped, v, text, hv, htype, hshown, hres⟩

end Dialogue.Lint
