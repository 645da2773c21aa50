import Dialogue.Proofs.Lint.Alike
import Dialogue.Proofs.Lint.Declarations
import Dialogue.Proofs.Script.InertLine

/-!
# What the linter says when a line is put in that says nothing

The linter counts lines in three places: the declaration lines that the first reading keeps, the
ranges of its conflicts, and the ranges of what the second reading finds. A line that says nothing is
passed over by both readings, and all three counts go up by one from there on. As lines keep their
order, the diagnostics are also sorted as before.

* `Facts.raised`, `Problem.raised`, `TextRange.raised`: the same with one more line put in;
* `addLines_inserted`: what the first reading knows;
* `Finding`: a problem and where it is, of which a diagnostic is made;
* `findings_inserted`, `conflictFindings_raised`: what the second reading finds;
* `report`: all that is found, in the order of the diagnostics (`validate_eq_report`);
* **`report_inserted`**: the same is reported in the same order.
-/

namespace Dialogue

open Text Script

/-- The stretch when one more line has been put in as line `k`. -/
def TextRange.raised (k : Nat) (r : TextRange) : TextRange :=
  { r with line := Script.raised (k : Int) r.line }

namespace Lint

variable {catalog : Catalog} {marks : List Text} {facts : Facts} {k first : Nat}
  {line source source' : Text}

theorem lineRange_raised (k index : Nat) (raw : Text) :
    lineRange (raised k index) raw = (lineRange index raw).raised k := by
  simp only [lineRange, TextRange.raised, raised_cast]

/-! ## The first reading -/

/-- The declaration when one more line has been put in as line `k`. -/
def Declaration.raised (k : Nat) (d : Declaration) : Declaration :=
  { d with line := Script.raised k d.line }

/-- The conflict when one more line has been put in as line `k`. -/
def Conflict.raised (k : Nat) (x : Conflict) : Conflict := { x with range := x.range.raised k }

namespace Facts

/-- What is known when one more line has been put in as line `k`. -/
def raised (k : Nat) (f : Facts) : Facts :=
  { f with
    vars := f.vars.mapValues (Declaration.raised k)
    conflicts := f.conflicts.map (Conflict.raised k) }

theorem get?_raised (k : Nat) (f : Facts) (name : Text) :
    (f.raised k).vars.get? name = (f.vars.get? name).map (Declaration.raised k) :=
  Table.get?_mapValues (Declaration.raised k) f.vars name

theorem foldl_addHeader_raised (k : Nat) (tokens : List Text) (f : Facts) :
    tokens.foldl addHeader (f.raised k) = (tokens.foldl addHeader f).raised k := by
  obtain ⟨hvars, hconflicts⟩ := foldl_addHeader_vars tokens f
  rw [raised, raised, hvars, hconflicts]
  exact foldl_addHeader_withDeclared tokens f _ _

theorem declare_raised (k : Nat) (f : Facts) (type : ParamType) (command name : Text)
    (index : Nat) (raw : Text) :
    (f.raised k).declare type command name (Script.raised k index) raw =
      (f.declare type command name index raw).raised k := by
  have hput : ∀ d : Declaration,
      { f.raised k with vars := (f.raised k).vars.put name (d.raised k) } =
        Facts.raised k { f with vars := f.vars.put name d } := fun d =>
    congrArg (fun vars => { f.raised k with vars })
      (Table.put_mapValues (Declaration.raised k) name d f.vars)
  unfold declare
  rw [get?_raised]
  cases f.vars.get? name with
  | none => exact hput { type, command, line := index }
  | some d =>
    have htype : (d.raised k).type = d.type := rfl
    simp only [Option.map_some, htype]
    split
    · exact hput { d with line := index }
    · rw [lineRange_raised]
      simp only [raised, List.map_append, List.map_singleton, Conflict.raised]

theorem addLine_raised (marks : List Text) (k : Nat) (f : Facts) (index : Nat) (raw : Text) :
    (f.raised k).addLine marks (Script.raised k index) raw =
      (f.addLine marks index raw).raised k := by
  unfold addLine
  cases commandLine? marks raw with
  | none => rfl
  | some cut =>
    dsimp only
    split
    · rfl
    · exact foldl_addHeader_raised k _ f
    · split
      · exact declare_raised k f _ _ _ index raw
      · rfl

theorem addLine_of_isSkippable (hline : isSkippable marks (trim line) = true) (f : Facts)
    (index : Nat) : f.addLine marks index line = f := by
  have hnone : commandLine? marks line = none := if_pos hline
  rw [addLine, hnone]

theorem addLines_succ (hfirst : k ≤ first) (lines : List Text) (f : Facts) :
    (f.raised k).addLines marks (first + 1) lines = (f.addLines marks first lines).raised k := by
  induction lines generalizing f first with
  | nil => rfl
  | cons raw rest ih =>
    rw [addLines, addLines, ← raised_of_le hfirst, addLine_raised, raised_of_le hfirst,
      ih (Nat.le_succ_of_le hfirst)]

/-- **What the first reading knows is the same**, with one more line counted. -/
theorem addLines_inserted (hline : isSkippable marks (trim line) = true) (after before : List Text)
    (hk : first + before.length = k) (f : Facts) :
    (f.raised k).addLines marks first (before ++ line :: after) =
      (f.addLines marks first (before ++ after)).raised k := by
  induction before generalizing f first with
  | nil =>
    rw [List.nil_append, List.nil_append, addLines, addLine_of_isSkippable hline]
    exact addLines_succ (Nat.le_of_eq hk.symm) after f
  | cons raw rest ih =>
    rw [List.length_cons] at hk
    have hraw := addLine_raised marks k f first raw
    rw [raised_of_lt (by omega)] at hraw
    rw [List.cons_append, List.cons_append, addLines, addLines, hraw, ih (by omega)]

end Facts

/-! ## The second reading -/

/-- The problem when one more line has been put in as line `k`: it may name a declaration line. -/
def Problem.raised (k : Nat) : Problem → Problem
  | variableType name declared line param expected =>
    variableType name declared (Script.raised k line) param expected
  | redeclared name attempted declared line command =>
    redeclared name attempted declared (Script.raised k line) command
  | x => x

theorem Problem.raised_eq_relined (k : Nat) : Problem.raised k = Problem.relined (Script.raised k) := by
  funext x
  cases x <;> rfl

theorem Facts.alike_raised (k : Nat) (facts : Facts) :
    facts.Alike (Script.raised k) id (facts.raised k) where
  vars name := by
    rw [get?_raised, Option.map_map]
    rfl
  game := rfl
  version := rfl

/-- **The problems of a line are the same** but for the declaration lines that they name. -/
theorem checkLine_raised (catalog : Catalog) (marks : List Text) (k : Nat) (facts : Facts)
    (raw : Text) : checkLine catalog marks (facts.raised k) raw =
      (checkLine catalog marks facts raw).map (List.map (Problem.raised k)) := by
  have halike := checkLine_alike (Facts.alike_raised k facts) catalog marks raw
  rwa [Problem.relined_id, List.map_id_fun, Except.map_id, id_eq, ← Problem.raised_eq_relined]
    at halike

theorem checkLine_of_isSkippable (hline : isSkippable marks (trim line) = true) :
    checkLine catalog marks facts line = .ok [] := if_pos hline

/-! ## Findings -/

/-- A problem and where it is. -/
structure Finding where
  problem : Problem
  range : TextRange
  deriving DecidableEq, Repr

namespace Finding

/-- What is reported. -/
def diagnostic (x : Finding) : Diagnostic := x.problem.diagnostic x.range

/-- The finding when one more line has been put in as line `k`. -/
def raised (k : Nat) (x : Finding) : Finding where
  problem := x.problem.raised k
  range := x.range.raised k

/-- Only the line and the wording are others. -/
theorem diagnostic_raised (k : Nat) (x : Finding) : (x.raised k).diagnostic =
    { x.diagnostic with
      message := (x.problem.raised k).message
      range := x.range.raised k } := by
  obtain ⟨problem, range⟩ := x
  cases problem <;> rfl

/-- Whether `x` is reported no later than `y`. -/
def le (x y : Finding) : Bool := x.diagnostic.le y.diagnostic

theorem le_raised (k : Nat) (x y : Finding) : (x.raised k).le (y.raised k) = x.le y := by
  simp only [le, diagnostic_raised, Diagnostic.le, TextRange.raised, ne_eq, raised_inj,
    raised_lt_raised_iff]
  rfl

end Finding

/-- What is found on lines that are numbered from `first`. -/
def findings (catalog : Catalog) (marks : List Text) (facts : Facts) (first : Nat) :
    List Text → Except TooManyDigits (List Finding)
  | [] => .ok []
  | raw :: rest => do
    let problems ← checkLine catalog marks facts raw
    let later ← findings catalog marks facts (first + 1) rest
    return problems.map (⟨·, lineRange first raw⟩) ++ later

/-- The conflicts of the first reading. -/
def conflictFindings (facts : Facts) : List Finding :=
  facts.conflicts.filterMap fun x => (conflictProblem facts x).map (⟨·, x.range⟩)

theorem checkLines_eq (catalog : Catalog) (marks : List Text) (facts : Facts) (first : Nat)
    (lines : List Text) : checkLines catalog marks facts first lines =
      (findings catalog marks facts first lines).map (List.map Finding.diagnostic) := by
  induction lines generalizing first with
  | nil => rfl
  | cons raw rest ih =>
    rw [checkLines, findings, ih]
    cases checkLine catalog marks facts raw with
    | error e => rfl
    | ok problems =>
      cases findings catalog marks facts (first + 1) rest with
      | error e => rfl
      | ok later =>
        simp only [Except.map, bind, Except.bind, pure, Except.pure, List.map_append, List.map_map]
        rfl

theorem conflictDiagnostics_eq (facts : Facts) :
    conflictDiagnostics facts = (conflictFindings facts).map Finding.diagnostic := by
  rw [conflictDiagnostics, conflictFindings, List.map_filterMap]
  simp only [Option.map_map]
  rfl

/-- What is found on a line. -/
theorem findings_cons (catalog : Catalog) (marks : List Text) (facts : Facts) (k first : Nat)
    (raw : Text) (rest rest' : List Text) {first' : Nat} (hfirst : Script.raised k first = first')
    (hrest : findings catalog marks (facts.raised k) (first' + 1) rest' =
      (findings catalog marks facts (first + 1) rest).map (List.map (Finding.raised k))) :
    findings catalog marks (facts.raised k) first' (raw :: rest') =
      (findings catalog marks facts first (raw :: rest)).map (List.map (Finding.raised k)) := by
  rw [findings, findings, checkLine_raised, hrest, ← hfirst, lineRange_raised]
  cases checkLine catalog marks facts raw with
  | error e => rfl
  | ok problems =>
    cases findings catalog marks facts (first + 1) rest with
    | error e => rfl
    | ok later =>
      simp only [Except.map, bind, Except.bind, pure, Except.pure, List.map_append, List.map_map]
      rfl

theorem findings_succ (hfirst : k ≤ first) (lines : List Text) :
    findings catalog marks (facts.raised k) (first + 1) lines =
      (findings catalog marks facts first lines).map (List.map (Finding.raised k)) := by
  induction lines generalizing first with
  | nil => rfl
  | cons raw rest ih =>
    exact findings_cons catalog marks facts k first raw rest rest (raised_of_le hfirst)
      (ih (Nat.le_succ_of_le hfirst))

/-- **The same is found**, with one more line counted. -/
theorem findings_inserted (hline : isSkippable marks (trim line) = true) (after before : List Text)
    (hk : first + before.length = k) :
    findings catalog marks (facts.raised k) first (before ++ line :: after) =
      (findings catalog marks facts first (before ++ after)).map (List.map (Finding.raised k)) := by
  induction before generalizing first with
  | nil =>
    have hle : k ≤ first := Nat.le_of_eq hk.symm
    rw [List.nil_append, List.nil_append, findings, checkLine_of_isSkippable hline,
      findings_succ hle]
    cases findings catalog marks facts first after <;> rfl
  | cons raw rest ih =>
    rw [List.length_cons] at hk
    exact findings_cons catalog marks facts k first raw (rest ++ after) (rest ++ line :: after)
      (raised_of_lt (by omega)) (ih (by omega))

theorem conflictFindings_raised (k : Nat) (facts : Facts) :
    conflictFindings (facts.raised k) = (conflictFindings facts).map (Finding.raised k) := by
  have hconflicts : (facts.raised k).conflicts = facts.conflicts.map (Conflict.raised k) := rfl
  simp only [conflictFindings, conflictProblem, Facts.get?_raised, hconflicts, List.filterMap_map,
    List.map_filterMap, Option.map_map]
  rfl

/-! ## The report -/

/-- What is found in a script, in the order in which it is reported. -/
def report (catalog : Catalog) (marks : List Text) (source : Text) :
    Except TooManyDigits (List Finding) := do
  let facts := collectFacts marks source
  let found ← findings catalog marks facts 0 (splitLines source)
  return (found ++ conflictFindings facts).mergeSort Finding.le

theorem sortDiagnostics_map (xs : List Finding) :
    sortDiagnostics (xs.map Finding.diagnostic) =
      (xs.mergeSort Finding.le).map Finding.diagnostic :=
  (List.map_mergeSort (f := Finding.diagnostic) fun _ _ _ _ => rfl).symm

theorem mergeSort_raised (k : Nat) (xs : List Finding) :
    (xs.map (Finding.raised k)).mergeSort Finding.le =
      (xs.mergeSort Finding.le).map (Finding.raised k) :=
  (List.map_mergeSort (f := Finding.raised k) fun x _ y _ => (Finding.le_raised k x y).symm).symm

/-- The diagnostics are those of what is reported. -/
theorem validate_eq_report (catalog : Catalog) (marks : List Text) (source : Text) :
    validate catalog marks source =
      (report catalog marks source).map (List.map Finding.diagnostic) := by
  simp only [validate, report, checkLines_eq, conflictDiagnostics_eq]
  cases findings catalog marks (collectFacts marks source) 0 (splitLines source) with
  | error e => rfl
  | ok found =>
    simp only [Except.map, bind, Except.bind, pure, Except.pure, ← List.map_append,
      sortDiagnostics_map]

theorem collectFacts_inserted (hs : Inserted marks k source source') :
    collectFacts marks source' = (collectFacts marks source).raised k := by
  obtain ⟨before, line, after, hk, hline, hsource, hsource'⟩ := hs
  rw [collectFacts, collectFacts, hsource, hsource']
  exact Facts.addLines_inserted hline after before (by omega) {}

/-- **The same is reported in the same order,** what is on line `k` or after it one line further
down. -/
theorem report_inserted (hs : Inserted marks k source source') (catalog : Catalog) :
    report catalog marks source' =
      (report catalog marks source).map (List.map (Finding.raised k)) := by
  have hfacts := collectFacts_inserted hs
  obtain ⟨before, line, after, hk, hline, hsource, hsource'⟩ := hs
  have hfound : findings catalog marks ((collectFacts marks source).raised k) 0 (splitLines source') =
      (findings catalog marks (collectFacts marks source) 0 (splitLines source)).map
        (List.map (Finding.raised k)) := by
    rw [hsource, hsource']
    exact findings_inserted hline after before (by omega)
  simp only [report, hfacts, hfound, conflictFindings_raised]
  cases findings catalog marks (collectFacts marks source) 0 (splitLines source) with
  | error e => rfl
  | ok found =>
    simp only [Except.map, bind, Except.bind, pure, Except.pure, ← List.map_append,
      mergeSort_raised]

end Lint

end Dialogue
