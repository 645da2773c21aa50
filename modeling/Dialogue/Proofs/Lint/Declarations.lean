import Dialogue.Lint.Check
import Dialogue.Proofs.Outcome
import Mathlib.Tactic.Common

/-!
# What the first reading of a script knows

The first reading goes through the lines and only ever learns more: a variable keeps the type of its
first declaration, and a declaration of another type is added to the conflicts, which are all
reported. A script of which no conflict is reported thus declares each variable with one type.

* `Declares`: what one line declares;
* `Facts.addLine_cases`: all that a line can add;
* `Facts.Extends`: what is known stays known, and conflicts stay conflicts (`addLines_extends`);
* **`knows_of_declares`**: without conflicts, what a line declares is known in the end;
* **`conflicts_eq_nil_of_validate`**: a script in which no redeclaration is reported has no
  conflicts.
-/

namespace Dialogue.Lint

open Text Script

theorem quotedName?_eq_some_iff {t name : Text} :
    quotedName? t = some name ↔ quotedBody? t = some name ∧ isIdentifier name = true :=
  Option.filter_eq_some_iff

/-- The line declares the variable with the type. -/
def Declares (marks : List Text) (raw name : Text) (type : ParamType) : Prop :=
  ∃ command content v, commandLine? marks raw = some (command, content) ∧
    Verb.ofKey? (lower command) = some v ∧ v.declares = some type ∧
    (splitParams content).head?.bind quotedName? = some name

/-- What a command line declares is read off its command and its first token. -/
theorem declares_iff {marks : List Text} {raw command content name : Text} {type : ParamType}
    (hline : commandLine? marks raw = some (command, content)) :
    Declares marks raw name type ↔
      ∃ v, Verb.ofKey? (lower command) = some v ∧ v.declares = some type ∧
        (splitParams content).head?.bind quotedName? = some name := by
  constructor
  · rintro ⟨command', content', v, hcommand, h⟩
    rw [hline] at hcommand
    obtain ⟨rfl, rfl⟩ := Prod.mk.inj (Option.some.inj hcommand)
    exact ⟨v, h⟩
  · rintro ⟨v, h⟩
    exact ⟨command, content, v, hline, h⟩

namespace Facts

variable {marks : List Text} {f g k : Facts} {name raw : Text} {type : ParamType} {index : Nat}

/-- The variable is known with the type. -/
def Knows (f : Facts) (name : Text) (type : ParamType) : Prop :=
  ∃ d, f.vars.get? name = some d ∧ d.type = type

/-- What is known stays known, and the conflicts that were there are. -/
structure Extends (f g : Facts) : Prop where
  knows : ∀ name type, f.Knows name type → g.Knows name type
  conflicts : ∀ x ∈ f.conflicts, x ∈ g.conflicts

/-- Every conflict is with a variable that is known. -/
def Founded (f : Facts) : Prop := ∀ x ∈ f.conflicts, ∃ type, f.Knows x.name type

theorem Extends.refl (f : Facts) : Extends f f := ⟨fun _ _ h => h, fun _ h => h⟩

theorem Extends.trans (hfg : Extends f g) (hgk : Extends g k) : Extends f k where
  knows name type h := hgk.knows name type (hfg.knows name type h)
  conflicts x h := hgk.conflicts x (hfg.conflicts x h)

/-! ## One declaration -/

theorem knows_put {d : Declaration} (hd : ∀ old, f.vars.get? name = some old → old.type = d.type)
    (other : Text) (type : ParamType) (h : f.Knows other type) :
    Knows { f with vars := f.vars.put name d } other type := by
  obtain ⟨old, hold, rfl⟩ := h
  by_cases hsame : name = other
  · subst hsame
    exact ⟨d, by rw [Table.get?_put, if_pos rfl], (hd old hold).symm⟩
  · exact ⟨old, by rwa [Table.get?_put, if_neg hsame], rfl⟩

theorem knows_put_self {d : Declaration} (hd : d.type = type) :
    Knows { f with vars := f.vars.put name d } name type :=
  ⟨d, by rw [Table.get?_put, if_pos rfl], hd⟩

/-- A declaration makes its variable known with its type or is a conflict with a known variable. -/
theorem declare_spec (f : Facts) (type : ParamType) (command name : Text) (index : Nat)
    (raw : Text) : Extends f (f.declare type command name index raw) ∧
      ((f.declare type command name index raw).Knows name type ∧
          (f.declare type command name index raw).conflicts = f.conflicts ∨
        ∃ x, (f.declare type command name index raw).conflicts = f.conflicts ++ [x] ∧
          ∃ other, f.Knows x.name other) := by
  unfold declare
  split
  · rename_i hnone
    refine ⟨⟨knows_put fun old hold => ?_, fun x hx => hx⟩, .inl ⟨knows_put_self rfl, rfl⟩⟩
    rw [hnone] at hold
    cases hold
  · rename_i d hd
    split
    · rename_i htype
      refine ⟨⟨knows_put fun old hold => ?_, fun x hx => hx⟩, .inl ⟨knows_put_self htype, rfl⟩⟩
      rw [hd] at hold
      rw [Option.some.inj hold]
    · refine ⟨⟨fun _ _ h => h, fun x hx => List.mem_append_left _ hx⟩, .inr ⟨_, rfl, ?_⟩⟩
      exact ⟨d.type, d, hd, rfl⟩

/-! ## Lines -/

/-- The same is known of the game, and this of the variables. -/
def withDeclared (f : Facts) (vars : Table Declaration) (conflicts : List Conflict) : Facts :=
  { f with vars, conflicts }

/-- A header does not look at what is declared. -/
theorem addHeader_withDeclared (f : Facts) (vars : Table Declaration) (conflicts : List Conflict)
    (token : Text) : (f.withDeclared vars conflicts).addHeader token =
      (f.addHeader token).withDeclared vars conflicts := by
  unfold addHeader
  cases splitNamed token with
  | none => rfl
  | some named =>
    dsimp only
    split
    · rfl
    · split <;> rfl

theorem foldl_addHeader_withDeclared (tokens : List Text) (f : Facts) (vars : Table Declaration)
    (conflicts : List Conflict) : tokens.foldl addHeader (f.withDeclared vars conflicts) =
      (tokens.foldl addHeader f).withDeclared vars conflicts := by
  induction tokens generalizing f with
  | nil => rfl
  | cons t ts ih => rw [List.foldl_cons, List.foldl_cons, addHeader_withDeclared, ih]

/-- A header leaves alone what is declared. -/
theorem foldl_addHeader_vars (tokens : List Text) (f : Facts) :
    (tokens.foldl addHeader f).vars = f.vars ∧
      (tokens.foldl addHeader f).conflicts = f.conflicts := by
  have hsame : tokens.foldl addHeader f =
      (tokens.foldl addHeader f).withDeclared f.vars f.conflicts :=
    foldl_addHeader_withDeclared tokens f f.vars f.conflicts
  have hvars := congrArg Facts.vars hsame
  have hconflicts := congrArg Facts.conflicts hsame
  exact ⟨hvars, hconflicts⟩

theorem addLine_of_not_declares (h : ∀ name type, ¬ Declares marks raw name type) :
    (f.addLine marks index raw).vars = f.vars ∧
      (f.addLine marks index raw).conflicts = f.conflicts := by
  unfold addLine
  split
  · exact ⟨rfl, rfl⟩
  · rename_i command content hline
    simp only
    split
    · exact ⟨rfl, rfl⟩
    · exact foldl_addHeader_vars (splitParams content) f
    · rename_i v _ hverb
      split
      · rename_i type name htype hname
        exact absurd ((declares_iff hline).mpr ⟨v, hverb, htype, hname⟩) (h name type)
      · exact ⟨rfl, rfl⟩

theorem addLine_of_declares {command content : Text} {v : Verb}
    (hline : commandLine? marks raw = some (command, content))
    (hverb : Verb.ofKey? (lower command) = some v) (htype : v.declares = some type)
    (hname : (splitParams content).head?.bind quotedName? = some name) :
    f.addLine marks index raw = f.declare type command name index raw := by
  unfold addLine
  simp only [hline, hverb]
  split
  · rename_i hnone
    cases hnone
  · rename_i hheader
    cases hheader
    cases htype
  · rename_i w _ hw
    obtain rfl := Option.some.inj hw
    simp only [htype, hname]

/-- **A line that declares nothing leaves variables and conflicts alone,** and any other makes its
declaration. -/
theorem addLine_cases (marks : List Text) (f : Facts) (index : Nat) (raw : Text) :
    ((f.addLine marks index raw).vars = f.vars ∧
        (f.addLine marks index raw).conflicts = f.conflicts ∧
        ∀ name type, ¬ Declares marks raw name type) ∨
      ∃ name type command, f.addLine marks index raw = f.declare type command name index raw ∧
        ∀ other type', Declares marks raw other type' → other = name ∧ type' = type := by
  by_cases h : ∃ name type, Declares marks raw name type
  · obtain ⟨name, type, command, content, v, hline, hverb, htype, hname⟩ := h
    refine .inr ⟨name, type, command, addLine_of_declares hline hverb htype hname, ?_⟩
    intro other type' hother
    obtain ⟨v', hverb', htype', hname'⟩ := (declares_iff hline).mp hother
    obtain rfl := Option.some.inj (hverb.symm.trans hverb')
    exact ⟨Option.some.inj (hname'.symm.trans hname), Option.some.inj (htype'.symm.trans htype)⟩
  · have hnone : ∀ name type, ¬ Declares marks raw name type := fun name type hdecl =>
      h ⟨name, type, hdecl⟩
    obtain ⟨hvars, hconflicts⟩ := addLine_of_not_declares (f := f) hnone
    exact .inl ⟨hvars, hconflicts, hnone⟩

theorem addLine_extends (marks : List Text) (f : Facts) (index : Nat) (raw : Text) :
    Extends f (f.addLine marks index raw) := by
  rcases addLine_cases marks f index raw with ⟨hvars, hconflicts, -⟩ | ⟨name, type, command, h, -⟩
  · exact ⟨fun _ _ hk => by rwa [Knows, hvars], fun x hx => by rwa [hconflicts]⟩
  · rw [h]
    exact (declare_spec f type command name index raw).1

theorem addLines_extends (marks : List Text) (lines : List Text) (f : Facts) (first : Nat) :
    Extends f (f.addLines marks first lines) := by
  induction lines generalizing f first with
  | nil => exact .refl f
  | cons raw rest ih => exact (addLine_extends marks f first raw).trans (ih _ _)

theorem Founded.addLine (hf : f.Founded) : (f.addLine marks index raw).Founded := by
  have hext := addLine_extends marks f index raw
  have hkept : ∀ x ∈ f.conflicts, ∃ type, (f.addLine marks index raw).Knows x.name type := by
    intro x hx
    obtain ⟨type, hk⟩ := hf x hx
    exact ⟨type, hext.knows _ _ hk⟩
  intro x hx
  rcases addLine_cases marks f index raw with ⟨-, hconflicts, -⟩ | ⟨name, type, command, h, -⟩
  · exact hkept x (hconflicts ▸ hx)
  · rcases (declare_spec f type command name index raw).2 with ⟨-, hsame⟩ | ⟨y, hy, other, hknown⟩
    · rw [h, hsame] at hx
      exact hkept x hx
    · rw [h, hy] at hx
      rcases List.mem_append.mp hx with hx | hx
      · exact hkept x hx
      · obtain rfl := List.mem_singleton.mp hx
        exact ⟨other, hext.knows _ _ hknown⟩

theorem Founded.addLines {lines : List Text} {first : Nat} (hf : f.Founded) :
    (f.addLines marks first lines).Founded := by
  induction lines generalizing f first with
  | nil => exact hf
  | cons raw rest ih => exact ih hf.addLine

/-- A declaration that made no conflict is known. -/
theorem addLine_knows (hdecl : Declares marks raw name type)
    (hconflicts : (f.addLine marks index raw).conflicts = []) :
    (f.addLine marks index raw).Knows name type := by
  rcases addLine_cases marks f index raw with ⟨-, -, hnone⟩ | ⟨name', type', command, h, honly⟩
  · exact absurd hdecl (hnone name type)
  · obtain ⟨rfl, rfl⟩ := honly name type hdecl
    rcases (declare_spec f type command name index raw).2 with ⟨hknows, -⟩ | ⟨x, hx, -⟩
    · rwa [h]
    · rw [h, hx] at hconflicts
      simp at hconflicts

theorem addLines_knows {lines : List Text} {first : Nat} (hraw : raw ∈ lines)
    (hdecl : Declares marks raw name type)
    (hconflicts : (f.addLines marks first lines).conflicts = []) :
    (f.addLines marks first lines).Knows name type := by
  induction lines generalizing f first with
  | nil => cases hraw
  | cons line rest ih =>
    rcases List.mem_cons.mp hraw with rfl | hraw
    · have hext := addLines_extends marks rest (f.addLine marks first raw) (first + 1)
      refine hext.knows _ _ (addLine_knows hdecl (List.eq_nil_iff_forall_not_mem.mpr ?_))
      intro x hx
      have hmem := hext.conflicts x hx
      rw [show (f.addLine marks first raw).addLines marks (first + 1) rest =
        f.addLines marks first (raw :: rest) from rfl, hconflicts] at hmem
      cases hmem
    · exact ih hraw hconflicts

end Facts

/-! ## A script -/

variable {marks : List Text} {source : Text}

/-- **Without conflicts, what a line declares is known in the end.** -/
theorem knows_of_declares {raw name : Text} {type : ParamType}
    (hconflicts : (collectFacts marks source).conflicts = []) (hraw : raw ∈ splitLines source)
    (hdecl : Declares marks raw name type) : (collectFacts marks source).Knows name type :=
  Facts.addLines_knows hraw hdecl hconflicts

theorem collectFacts_founded (marks : List Text) (source : Text) :
    (collectFacts marks source).Founded :=
  Facts.Founded.addLines fun x hx => by cases hx

/-- **A script in which no redeclaration is reported has no conflicts.** -/
theorem conflicts_eq_nil_of_validate {catalog : Catalog} {ds : List Diagnostic}
    (hlint : validate catalog marks source = .ok ds)
    (hcode : ∀ d ∈ ds, d.code ≠ ofString "VARIABLE_REDECLARED") :
    (collectFacts marks source).conflicts = [] := by
  obtain ⟨found, -, hds⟩ := bind_eq_ok_iff.mp hlint
  obtain rfl := pure_eq_ok_iff.mp hds
  refine List.eq_nil_iff_forall_not_mem.mpr fun x hx => ?_
  obtain ⟨type, d, hd, -⟩ := collectFacts_founded marks source x hx
  let problem : Problem := .redeclared x.name x.attempted d.type d.line d.command
  have hmem : problem.diagnostic x.range ∈ conflictDiagnostics (collectFacts marks source) :=
    List.mem_filterMap.mpr ⟨x, hx, by simp [conflictProblem, hd, problem]⟩
  refine hcode (problem.diagnostic x.range) ?_ rfl
  rw [sortDiagnostics, List.mem_mergeSort]
  exact List.mem_append_right found hmem

theorem validate_eq_ok {catalog : Catalog} {found : List Diagnostic}
    (hlines : checkLines catalog marks (collectFacts marks source) 0 (splitLines source) =
      .ok found) : validate catalog marks source =
        .ok (sortDiagnostics (found ++ conflictDiagnostics (collectFacts marks source))) := by
  simp only [validate, hlines]
  rfl

/-- No problem is found in a script whose lines and declarations are in order. -/
theorem validate_eq_nil {catalog : Catalog}
    (hlines : checkLines catalog marks (collectFacts marks source) 0 (splitLines source) = .ok [])
    (hconflicts : conflictDiagnostics (collectFacts marks source) = []) :
    validate catalog marks source = .ok [] := by
  rw [validate_eq_ok hlines, hconflicts]
  exact congrArg Except.ok List.mergeSort_nil

end Dialogue.Lint
