import Dialogue.Proofs.Lint.Declarations
import Dialogue.Proofs.Script.Lines
import Dialogue.Proofs.Table
import Mathlib.Data.List.Induction

/-!
# The declarations of a script as a list

The first reading keeps one entry for each variable. What it holds in the end is said here in terms
of all the declarations that the script makes, in the order of their lines.

* `declaration?`, `declarations`: what a line declares, and what lines do;
* `declarations_lines`: the declarations stand on different lines, in their order;
* `DeclaredAt`, `declaredAt_iff`: what the line of a number declares;
* `redeclare`, `addLines_vars`: the first reading takes the declarations one after the other;
* `recorded`, **`get?_foldl_redeclare`**: a variable has type and command of its first declaration
  and the line of the last one of that type (`get?_collectFacts` for a whole script).
-/

namespace Dialogue.Lint

open Text Script

variable {marks : List Text} {first index : Nat} {raw name : Text} {type : ParamType}
  {lines : List Text} {e : Text × Declaration}

/-! ## Lines -/

/-- The variable that a line declares, and how. -/
def declaration? (marks : List Text) (index : Nat) (raw : Text) : Option (Text × Declaration) := do
  let (command, content) ← commandLine? marks raw
  let verb ← Verb.ofKey? (lower command)
  let type ← verb.declares
  let name ← (splitParams content).head?.bind quotedName?
  return (name, { type, command, line := index })

/-- What a line declares, it declares in its own place. -/
theorem declaration?_eq_some_iff : declaration? marks index raw = some e ↔
    ∃ command content v, commandLine? marks raw = some (command, content) ∧
      Verb.ofKey? (lower command) = some v ∧ v.declares = some e.2.type ∧
      (splitParams content).head?.bind quotedName? = some e.1 ∧
      e.2.command = command ∧ e.2.line = index := by
  simp only [declaration?, bind, pure, Option.bind_eq_some_iff, Option.some.injEq]
  constructor
  · rintro ⟨⟨command, content⟩, hline, v, hverb, type, htype, name, hname, rfl⟩
    exact ⟨command, content, v, hline, hverb, htype, hname, rfl, rfl⟩
  · rintro ⟨command, content, v, hline, hverb, htype, hname, hcommand, hindex⟩
    refine ⟨(command, content), hline, v, hverb, e.2.type, htype, e.1, hname, ?_⟩
    rw [← hcommand, ← hindex]

theorem declares_of_declaration? (h : declaration? marks index raw = some e) :
    Declares marks raw e.1 e.2.type ∧ e.2.line = index := by
  obtain ⟨command, content, v, hline, hverb, htype, hname, -, hindex⟩ :=
    declaration?_eq_some_iff.mp h
  exact ⟨⟨command, content, v, hline, hverb, htype, hname⟩, hindex⟩

theorem exists_declaration? (index : Nat) (h : Declares marks raw name type) :
    ∃ e, declaration? marks index raw = some e ∧ e.1 = name ∧ e.2.type = type := by
  obtain ⟨command, content, v, hline, hverb, htype, hname⟩ := h
  exact ⟨(name, { type, command, line := index }),
    declaration?_eq_some_iff.mpr ⟨command, content, v, hline, hverb, htype, hname, rfl, rfl⟩,
    rfl, rfl⟩

/-! ## Scripts -/

/-- The declarations that lines numbered from `first` make. -/
def declarations (marks : List Text) (first : Nat) (lines : List Text) : Table Declaration :=
  gather (fun i raw => (declaration? marks i raw).toList) first lines

theorem mem_declarations_iff : e ∈ declarations marks first lines ↔
    ∃ i raw, lines[i]? = some raw ∧ declaration? marks (first + i) raw = some e := by
  simp only [declarations, mem_gather_iff, Option.mem_toList]

/-- **The declarations stand on different lines, in their order.** -/
theorem declarations_lines (marks : List Text) (first : Nat) (lines : List Text) :
    (declarations marks first lines).Pairwise fun e f => e.2.line < f.2.line := by
  have hline : ∀ i raw, ∀ e ∈ (declaration? marks i raw).toList, (e.2.line : Int) = i := by
    intro i raw e he
    rw [(declares_of_declaration? (Option.mem_toList.mp he)).2]
  have hlines := pairwise_gather hline (fun _ _ => Option.length_toList_le) first lines
  exact hlines.imp Int.ofNat_lt.mp

/-- Of the declarations of a variable the one that is found stands first. -/
theorem le_line_of_get? {es : Table Declaration} {d : Declaration}
    (hlines : es.Pairwise fun e f => e.2.line < f.2.line) (hd : es.get? name = some d) (he : e ∈ es)
    (hname : e.1 = name) : d.line ≤ e.2.line := by
  induction es with
  | nil => cases he
  | cons f rest ih =>
    obtain ⟨hbelow, hrest⟩ := List.pairwise_cons.mp hlines
    rw [Table.get?_cons] at hd
    rcases List.mem_cons.mp he with rfl | he
    · rw [if_pos hname] at hd
      exact Nat.le_of_eq (congrArg _ (Option.some.inj hd).symm)
    · split_ifs at hd with hf
      · rw [← Option.some.inj hd]
        exact Nat.le_of_lt (hbelow e he)
      · exact ih hrest hd he

/-- The line of the script declares the variable with the type. -/
def DeclaredAt (marks : List Text) (source : Text) (i : Nat) (name : Text) (type : ParamType) :
    Prop :=
  ∃ raw, (splitLines source)[i]? = some raw ∧ Declares marks raw name type

theorem declaredAt_iff {source : Text} {i : Nat} : DeclaredAt marks source i name type ↔
    ∃ e ∈ declarations marks 0 (splitLines source),
      e.1 = name ∧ e.2.type = type ∧ e.2.line = i := by
  constructor
  · rintro ⟨raw, hraw, hdecl⟩
    obtain ⟨e, he, hname, htype⟩ := exists_declaration? i hdecl
    refine ⟨e, mem_declarations_iff.mpr ⟨i, raw, hraw, ?_⟩, hname, htype,
      (declares_of_declaration? he).2⟩
    rwa [Nat.zero_add]
  · rintro ⟨e, he, rfl, rfl, rfl⟩
    obtain ⟨j, raw, hraw, hdecl⟩ := mem_declarations_iff.mp he
    obtain ⟨hdeclares, hline⟩ := declares_of_declaration? hdecl
    rw [Nat.zero_add] at hline
    exact ⟨raw, by rwa [hline], hdeclares⟩

/-! ## The first reading -/

/-- The table after one more declaration: a new variable is entered, a known one gets the line if it
has the type. -/
def redeclare (t : Table Declaration) (e : Text × Declaration) : Table Declaration :=
  match t.get? e.1 with
  | none => t.put e.1 e.2
  | some d => if d.type = e.2.type then t.put e.1 { d with line := e.2.line } else t

theorem declare_vars (f : Facts) (type : ParamType) (command name : Text) (index : Nat)
    (raw : Text) : (f.declare type command name index raw).vars =
      redeclare f.vars (name, { type, command, line := index }) := by
  rw [Facts.declare, redeclare]
  cases f.vars.get? name with
  | none => rfl
  | some d =>
    simp only
    split_ifs <;> rfl

theorem addLine_vars (marks : List Text) (f : Facts) (index : Nat) (raw : Text) :
    (f.addLine marks index raw).vars =
      (declaration? marks index raw).toList.foldl redeclare f.vars := by
  cases h : declaration? marks index raw with
  | none =>
    have hnone : ∀ name type, ¬ Declares marks raw name type := by
      intro name type hdecl
      obtain ⟨e, he, -⟩ := exists_declaration? index hdecl
      rw [h] at he
      cases he
    exact (Facts.addLine_of_not_declares hnone).1
  | some e =>
    obtain ⟨command, content, v, hline, hverb, htype, hname, hcommand, hindex⟩ :=
      declaration?_eq_some_iff.mp h
    rw [Facts.addLine_of_declares hline hverb htype hname, declare_vars, ← hcommand, ← hindex]
    rfl

/-- **The first reading takes the declarations one after the other.** -/
theorem addLines_vars (marks : List Text) (lines : List Text) (f : Facts) (first : Nat) :
    (f.addLines marks first lines).vars =
      (declarations marks first lines).foldl redeclare f.vars := by
  induction lines generalizing f first with
  | nil => rfl
  | cons raw rest ih =>
    rw [Facts.addLines, ih, addLine_vars, declarations, declarations, gather, List.foldl_append]

/-- Its key is entered as any other is. -/
theorem keys_redeclare (t : Table Declaration) (e : Text × Declaration) :
    (redeclare t e).keys = (t.putNew e.1 e.2).keys := by
  rw [redeclare, Table.keys_putNew]
  split
  · rw [Table.keys_put]
  · rename_i d hd
    have hmem : e.1 ∈ t.keys := by
      by_contra hnot
      rw [(Table.get?_eq_none_iff t e.1).mpr hnot] at hd
      cases hd
    rw [if_pos hmem]
    split_ifs
    · rw [Table.keys_put, if_pos hmem]
    · rfl

/-! ## What is recorded of a variable -/

variable {es : Table Declaration}

/-- The line of the last declaration that gives the variable the type. -/
def lastLine (es : Table Declaration) (name : Text) (type : ParamType) : Option Nat :=
  (es.reverse.find? fun e => e.1 = name ∧ e.2.type = type).map (·.2.line)

/-- What is recorded of a variable: its first declaration, with the line of the last one of the same
type. -/
def recorded (es : Table Declaration) (name : Text) : Option Declaration :=
  (es.get? name).map fun d => { d with line := (lastLine es name d.type).getD d.line }

theorem lastLine_concat (es : Table Declaration) (e : Text × Declaration) (name : Text)
    (type : ParamType) : lastLine (es ++ [e]) name type =
      if e.1 = name ∧ e.2.type = type then some e.2.line else lastLine es name type := by
  rw [lastLine, List.reverse_append, List.reverse_singleton, List.singleton_append,
    List.find?_cons, lastLine]
  by_cases h : e.1 = name ∧ e.2.type = type
  · simp [h]
  · simp [h]

theorem get?_concat (es : Table Declaration) (e : Text × Declaration) (name : Text) :
    Table.get? (es ++ [e]) name = (es.get? name).or (if e.1 = name then some e.2 else none) := by
  rw [Table.get?_append, Table.get?_cons, Table.get?_nil]

theorem recorded_concat_of_ne (h : e.1 ≠ name) : recorded (es ++ [e]) name = recorded es name := by
  rw [recorded, recorded, get?_concat, if_neg h, Option.or_none]
  congr 1
  funext d
  rw [lastLine_concat, if_neg fun hsame => h hsame.1]

/-- **A variable has type and command of its first declaration and the line of the last one of that
type.** -/
theorem get?_foldl_redeclare (es : Table Declaration) (name : Text) :
    (es.foldl redeclare []).get? name = recorded es name := by
  induction es using List.reverseRecOn generalizing name with
  | nil => rfl
  | append_singleton es e ih =>
    rw [List.foldl_append, List.foldl_cons, List.foldl_nil, redeclare, ih e.1]
    by_cases hname : e.1 = name
    · subst hname
      cases hfirst : Table.get? es e.1 with
      | none =>
        have hconcat : Table.get? (es ++ [e]) e.1 = some e.2 := by
          rw [get?_concat, hfirst, if_pos rfl, Option.none_or]
        simp [recorded, hfirst, hconcat, lastLine_concat, Table.get?_put]
      | some d =>
        have hconcat : Table.get? (es ++ [e]) e.1 = some d := by
          rw [get?_concat, hfirst, Option.some_or]
        simp only [recorded, hfirst, hconcat, Option.map_some, lastLine_concat, true_and]
        by_cases htype : d.type = e.2.type
        · simp [htype, Table.get?_put]
        · rw [if_neg htype, if_neg fun h => htype h.symm, ih, recorded, hfirst]
          rfl
    · rw [recorded_concat_of_ne hname, ← ih name]
      split
      · rw [Table.get?_put, if_neg hname]
      · split_ifs
        · rw [Table.get?_put, if_neg hname]
        · rfl

theorem lastLine_eq_some {type : ParamType} {n : Nat} (h : lastLine es name type = some n) :
    ∃ e ∈ es, e.1 = name ∧ e.2.type = type ∧ e.2.line = n := by
  obtain ⟨e, he, hline⟩ := Option.map_eq_some_iff.mp h
  have hsame := List.find?_some he
  simp only [decide_eq_true_eq] at hsame
  exact ⟨e, List.mem_reverse.mp (List.mem_of_find?_eq_some he), hsame.1, hsame.2, hline⟩

/-- What is recorded has the type of the first declaration and a line of that type. -/
theorem recorded_spec {d : Declaration} (h : es.get? name = some d) :
    ∃ last ∈ es, last.1 = name ∧ last.2.type = d.type ∧
      recorded es name = some { d with line := last.2.line } := by
  cases hlast : lastLine es name d.type with
  | none =>
    refine ⟨(name, d), Table.mem_of_get? h, rfl, rfl, ?_⟩
    rw [recorded, h, Option.map_some, hlast, Option.getD_none]
  | some n =>
    obtain ⟨last, hmem, hname, htype, rfl⟩ := lastLine_eq_some hlast
    refine ⟨last, hmem, hname, htype, ?_⟩
    rw [recorded, h, Option.map_some, hlast, Option.getD_some]

/-- **What the first reading knows of the variables of a script.** -/
theorem get?_collectFacts (marks : List Text) (source name : Text) :
    (collectFacts marks source).vars.get? name =
      recorded (declarations marks 0 (splitLines source)) name := by
  rw [collectFacts, addLines_vars, get?_foldl_redeclare]

end Dialogue.Lint
