import Dialogue.Proofs.Lint.Order
import Dialogue.Proofs.Lint.Releases
import Dialogue.Proofs.Machine.Resolve
import Mathlib.Data.List.Forall2

/-!
# The first reading in closed form

The first reading goes through the lines with a state that later lines still change. What it knows
in the end is said here without a state, in terms of the declarations and headers of the script.

* `SpelledOut`, `declarationsOf`: the declarations of one variable, in the order of their lines
  (`mem_declarationsOf_iff_spelledOut`);
* `settled`, `get?_vars`: what is recorded of a variable;
* `mem_conflicts_iff`, `pairwise_conflicts`: the conflicts are the declarations with another type
  than the first one of their variable;
* `lineRange_spec`: where a conflict stands on its line;
* `redeclared_validate`, `reports_of_validate`: what the linter reports of the conflicts;
* **`collectFacts_closed`**: all of it, and when the linter reports anything;
* **`exists_unreported`**: a conflict that is not reported, as the script is refused.
-/

namespace Dialogue.Lint

open Text Script

variable {catalog : Catalog} {marks : List Text} {source name : Text} {d : Declaration}
  {x : Conflict} {ds : List Diagnostic}

/-! ## The declarations of a variable -/

/-- The names of the commands that declare, in lower case, with the type of the variable. -/
def setters : Table ParamType :=
  [(ofString "set_intvar", .int), (ofString "set_boolvar", .bool),
    (ofString "set_stringvar", .string)]

theorem get?_setters_iff {key : Text} {type : ParamType} : setters.get? key = some type ↔
    ∃ v, Verb.ofKey? key = some v ∧ v.declares = some type := by
  constructor
  · intro h
    have hmem := Table.mem_of_get? h
    simp only [setters, List.mem_cons, Prod.mk.injEq, List.not_mem_nil, or_false] at hmem
    rcases hmem with ⟨rfl, rfl⟩ | ⟨rfl, rfl⟩ | ⟨rfl, rfl⟩
    · exact ⟨.setInt, rfl, rfl⟩
    · exact ⟨.setBool, rfl, rfl⟩
    · exact ⟨.setString, rfl, rfl⟩
  · rintro ⟨v, hverb, htype⟩
    have hmem := Table.mem_of_get? hverb
    cases v with
    | setInt | setBool | setString =>
      obtain rfl := Option.some.inj htype
      obtain rfl : key = _ := by simpa [Verb.names] using hmem
      rfl
    | _ => cases htype

/-- The declaration stands on its line: the command is one that declares, in any letter case, and
its first token is the name in double quotes. -/
def SpelledOut (marks : List Text) (source name : Text) (d : Declaration) : Prop :=
  isIdentifier name = true ∧ ∃ raw content rest,
    (splitLines source)[d.line]? = some raw ∧ isSkippable marks (trim raw) = false ∧
    matchCommand (trim raw) = some (d.command, content) ∧
    setters.get? (lower d.command) = some d.type ∧
    splitParams content = ('"' :: (name ++ ['"'])) :: rest

/-- The declarations of a variable, in the order of their lines. -/
def declarationsOf (marks : List Text) (source name : Text) : List Declaration :=
  (declarations marks 0 (splitLines source)).getAll name

theorem mem_declarationsOf_iff : d ∈ declarationsOf marks source name ↔
    ∃ raw, (splitLines source)[d.line]? = some raw ∧
      declaration? marks d.line raw = some (name, d) := by
  rw [declarationsOf, Table.mem_getAll_iff, mem_declarations_iff]
  simp only [Nat.zero_add]
  constructor
  · rintro ⟨i, raw, hraw, hdecl⟩
    obtain rfl : d.line = i := (declares_of_declaration? hdecl).2
    exact ⟨raw, hraw, hdecl⟩
  · rintro ⟨raw, hraw, hdecl⟩
    exact ⟨d.line, raw, hraw, hdecl⟩

/-- **The declarations of a variable are those that stand on the lines.** -/
theorem mem_declarationsOf_iff_spelledOut :
    d ∈ declarationsOf marks source name ↔ SpelledOut marks source name d := by
  simp only [mem_declarationsOf_iff, declaration?_eq_some_iff]
  constructor
  · rintro ⟨raw, hraw, command, content, v, hline, hverb, htype, hname, rfl, -⟩
    obtain ⟨hskip, hmatch⟩ := commandLine?_eq_some_iff.mp hline
    obtain ⟨token, htoken, hquoted⟩ := Option.bind_eq_some_iff.mp hname
    obtain ⟨hbody, hidentifier⟩ := quotedName?_eq_some_iff.mp hquoted
    obtain ⟨rest, htokens⟩ := List.head?_eq_some_iff.mp htoken
    rw [quotedBody?_eq_some_iff.mp hbody] at htokens
    exact ⟨hidentifier, raw, content, rest, hraw, hskip, hmatch,
      get?_setters_iff.mpr ⟨v, hverb, htype⟩, htokens⟩
  · rintro ⟨hidentifier, raw, content, rest, hraw, hskip, hmatch, hsetter, htokens⟩
    obtain ⟨v, hverb, htype⟩ := get?_setters_iff.mp hsetter
    refine ⟨raw, hraw, d.command, content, v, commandLine?_eq_some_iff.mpr ⟨hskip, hmatch⟩,
      hverb, htype, ?_, rfl, trivial⟩
    rw [htokens]
    exact quotedName?_eq_some_iff.mpr ⟨quotedBody?_eq_some_iff.mpr rfl, hidentifier⟩

theorem pairwise_declarationsOf (marks : List Text) (source name : Text) :
    (declarationsOf marks source name).Pairwise fun d e => d.line < e.line :=
  List.pairwise_map.mpr ((declarations_lines marks 0 (splitLines source)).filter _)

/-! ## What is recorded -/

/-- What is recorded of the declarations of one variable: type and command of the first one, with
the line of the last one of that type. -/
def settled : List Declaration → Option Declaration
  | [] => none
  | d :: ds => some { d with line := ((ds.filter fun e => e.type = d.type).getLastD d).line }

theorem settled_type (ds : List Declaration) :
    (settled ds).map (·.type) = ds.head?.map (·.type) := by
  cases ds <;> rfl

theorem lastLine_eq (es : Table Declaration) (name : Text) (type : ParamType) :
    lastLine es name type =
      ((es.getAll name).filter fun d => d.type = type).getLast?.map (·.line) := by
  rw [lastLine, Table.getAll, List.filter_map, List.getLast?_map, List.filter_filter,
    List.getLast?_filter, Option.map_map]
  congr 2
  funext e
  simp [and_comm]

theorem recorded_eq_settled (es : Table Declaration) (name : Text) :
    recorded es name = settled (es.getAll name) := by
  rw [recorded, Table.get?_eq_head?]
  cases hall : es.getAll name with
  | nil => rfl
  | cons d ds =>
    have hlast : lastLine es name d.type =
        some ((ds.filter fun e => e.type = d.type).getLastD d).line := by
      rw [lastLine_eq, hall, List.filter_cons, if_pos (decide_eq_true rfl), List.getLast?_cons,
        List.getLastD_eq_getLast?]
      rfl
    rw [List.head?_cons, Option.map_some, hlast]
    rfl

/-- **A variable is recorded as its declarations settle it.** -/
theorem get?_vars (marks : List Text) (source name : Text) :
    (collectFacts marks source).vars.get? name = settled (declarationsOf marks source name) := by
  rw [get?_collectFacts, recorded_eq_settled, declarationsOf]

/-! ## Conflicts -/

/-- **A conflict is a declaration with another type than the first one of its variable.** -/
theorem mem_conflicts_iff : x ∈ (collectFacts marks source).conflicts ↔
    ∃ first d raw, (declarationsOf marks source x.name).head? = some first ∧
      d ∈ declarationsOf marks source x.name ∧ d.type ≠ first.type ∧
      (splitLines source)[d.line]? = some raw ∧
      x = { name := x.name, attempted := d.type, range := lineRange d.line raw } := by
  rw [collectFacts_conflicts, mem_gather_iff]
  simp only [Nat.zero_add, conflictsOn, Option.mem_toList, Option.bind_eq_some_iff, conflict?,
    get?_vars]
  have htypes := settled_type (declarationsOf marks source x.name)
  constructor
  · rintro ⟨i, raw, hraw, e, he, old, hold, hx⟩
    split_ifs at hx with htype
    obtain rfl := Option.some.inj hx
    obtain ⟨-, rfl⟩ := declares_of_declaration? he
    rw [hold, Option.map_some] at htypes
    obtain ⟨first, hfirst, hsame⟩ := Option.map_eq_some_iff.mp htypes.symm
    exact ⟨first, e.2, raw, hfirst, mem_declarationsOf_iff.mpr ⟨raw, hraw, he⟩,
      fun h => htype (hsame.symm.trans h.symm), hraw, rfl⟩
  · rintro ⟨first, d, raw, hfirst, hd, htype, hraw, hx⟩
    obtain ⟨raw', hraw', hdecl⟩ := mem_declarationsOf_iff.mp hd
    obtain rfl := Option.some.inj (hraw.symm.trans hraw')
    rw [hfirst, Option.map_some] at htypes
    obtain ⟨old, hold, hsame⟩ := Option.map_eq_some_iff.mp htypes
    refine ⟨d.line, raw, hraw, (x.name, d), hdecl, old, hold, ?_⟩
    rw [if_neg fun h => htype (h.symm.trans hsame), hx]

theorem pairwise_conflicts (marks : List Text) (source : Text) :
    (collectFacts marks source).conflicts.Pairwise fun x y => x.range.line < y.range.line := by
  rw [collectFacts_conflicts]
  refine pairwise_gather (fun i raw x hx => ?_) (fun i raw => Option.length_toList_le) 0 _
  obtain ⟨e, -, hconflict⟩ := Option.bind_eq_some_iff.mp (Option.mem_toList.mp hx)
  obtain ⟨old, -, hx⟩ := Option.bind_eq_some_iff.mp hconflict
  split_ifs at hx
  rw [← Option.some.inj hx]
  rfl

/-- **The span of a line is that of its text between the blanks around it.** -/
theorem lineRange_spec (index : Nat) (raw : Text) : ∃ before after, Blanks before ∧ Blanks after ∧
    raw = before ++ (trim raw ++ after) ∧ lineRange index raw =
      { line := index, start := before.length, stop := before.length + (trim raw).length } := by
  obtain ⟨before, hbefore, hleft⟩ := trimLeft_split raw
  obtain ⟨after, hafter, hright⟩ := trimRight_split (trimLeft raw)
  refine ⟨before, after, hbefore, hafter, by rw [trim, ← hright, ← hleft], ?_⟩
  have hstart : raw.length - (trimLeft raw).length = before.length := by
    rw [hleft, List.length_append, ← hleft]
    omega
  simp only [lineRange, hstart]

/-! ## Reports -/

theorem eq_redeclared_of_code {p : Problem} (h : p.code = ofString "VARIABLE_REDECLARED") :
    ∃ name attempted declared line command,
      p = .redeclared name attempted declared line command := by
  cases p with
  | redeclared name attempted declared line command => exact ⟨_, _, _, _, _, rfl⟩
  | _ => exact absurd h (by simp [Problem.code, ofString])

/-- No line has a redeclaration among its problems. -/
theorem code_of_mem_lineProblems {facts : Facts} {raw : Text} {p : Problem}
    (hp : p ∈ lineProblems catalog marks facts raw) : p.code ≠ ofString "VARIABLE_REDECLARED" := by
  intro hcode
  obtain ⟨name, attempted, declared, line, command, rfl⟩ := eq_redeclared_of_code hcode
  by_cases hskip : isSkippable marks (trim raw) = true
  · rw [lineProblems_of_isSkippable hskip] at hp
    cases hp
  rw [Bool.not_eq_true] at hskip
  cases hmatch : matchCommand (trim raw) with
  | none =>
    rw [lineProblems_of_malformed hskip hmatch] at hp
    cases List.mem_singleton.mp hp
  | some parts =>
    have hline := commandLine?_eq_some_iff.mpr ⟨hskip, hmatch⟩
    cases hfind : catalog.find? parts.1 with
    | none =>
      rw [lineProblems_of_unknown hline hfind] at hp
      cases List.mem_singleton.mp hp
    | some c => exact lineProblems_ofKnown hline hfind _ hp

/-- The redeclarations among some reports. -/
def redeclared (ds : List Diagnostic) : List Diagnostic :=
  ds.filter fun r => r.code = ofString "VARIABLE_REDECLARED"

theorem redeclared_remarks (catalog : Catalog) (marks : List Text) (facts : Facts) (first : Nat)
    (lines : List Text) : redeclared (gather (remarks catalog marks facts) first lines) = [] := by
  refine List.filter_eq_nil_iff.mpr fun r hr hcode => ?_
  obtain ⟨i, raw, -, hr⟩ := mem_gather_iff.mp hr
  obtain ⟨p, hp, rfl⟩ := List.mem_map.mp hr
  exact code_of_mem_lineProblems hp (of_decide_eq_true hcode)

theorem redeclared_conflictDiagnostics (marks : List Text) (source : Text) :
    redeclared (conflictDiagnostics (collectFacts marks source)) =
      conflictDiagnostics (collectFacts marks source) := by
  refine List.filter_eq_self.mpr fun r hr => decide_eq_true ?_
  rw [conflictDiagnostics_eq_gather, mem_gather_iff] at hr
  obtain ⟨i, raw, -, hr⟩ := hr
  exact (of_mem_redeclarations hr).1

theorem pairwise_conflictDiagnostics (marks : List Text) (source : Text) :
    (conflictDiagnostics (collectFacts marks source)).Pairwise fun a b => a.le b = true := by
  have hlines : (conflictDiagnostics (collectFacts marks source)).Pairwise
      fun a b => a.range.line < b.range.line := by
    rw [conflictDiagnostics_eq_gather]
    refine pairwise_gather (fun i raw r hr => ?_) (length_redeclarations _ _) 0 _
    rw [(of_mem_redeclarations hr).2.1]
    rfl
  exact hlines.imp Diagnostic.le_of_line_lt

/-- **The redeclarations that are reported are the conflicts**, in their order. -/
theorem redeclared_validate (hlint : validate catalog marks source = .ok ds) :
    redeclared ds = conflictDiagnostics (collectFacts marks source) := by
  obtain ⟨-, rfl⟩ := validate_eq_sort hlint
  have hpicked : redeclared (gather (remarks catalog marks (collectFacts marks source)) 0
      (splitLines source) ++ conflictDiagnostics (collectFacts marks source)) =
        conflictDiagnostics (collectFacts marks source) := by
    have hproblems := redeclared_remarks catalog marks (collectFacts marks source) 0
      (splitLines source)
    have hconflicts := redeclared_conflictDiagnostics marks source
    rw [redeclared] at hproblems hconflicts
    rw [redeclared, List.filter_append, hproblems, hconflicts, List.nil_append]
  -- the conflicts are in order before the sorting, which therefore leaves them as they are
  have hordered := pairwise_conflictDiagnostics marks source
  rw [← hpicked] at hordered
  exact (filter_sortDiagnostics _ hordered).trans hpicked

/-- What is reported of a conflict: it cites what is recorded of the variable in the end. -/
def Reports (facts : Facts) (x : Conflict) (r : Diagnostic) : Prop :=
  ∃ d, facts.vars.get? x.name = some d ∧
    r = (Problem.redeclared x.name x.attempted d.type d.line d.command).diagnostic x.range

theorem forall₂_conflictDiagnostics {facts : Facts} (xs : List Conflict)
    (h : ∀ x ∈ xs, ∃ d, facts.vars.get? x.name = some d) : List.Forall₂ (Reports facts) xs
      (xs.filterMap fun x => (conflictProblem facts x).map (·.diagnostic x.range)) := by
  induction xs with
  | nil => exact .nil
  | cons x xs ih =>
    obtain ⟨hx, hxs⟩ := List.forall_mem_cons.mp h
    obtain ⟨d, hd⟩ := hx
    have hproblem : conflictProblem facts x =
        some (.redeclared x.name x.attempted d.type d.line d.command) := by
      rw [conflictProblem, hd, Option.map_some]
    rw [List.filterMap_cons, hproblem]
    exact .cons ⟨d, hd, rfl⟩ (ih hxs)

theorem reports_of_validate (hlint : validate catalog marks source = .ok ds) :
    List.Forall₂ (Reports (collectFacts marks source)) (collectFacts marks source).conflicts
      (redeclared ds) := by
  rw [redeclared_validate hlint]
  refine forall₂_conflictDiagnostics _ fun x hx => ?_
  obtain ⟨type, d, hd, -⟩ := collectFacts_founded marks source x hx
  exact ⟨d, hd⟩

/-- **What the first reading learns of a script**, in terms of the declarations and headers alone. A
variable is recorded as its declarations settle it, if there are any; these are the lines that spell
one out, in order. The conflicts are the declarations, in order, with another type than the first
one of their variable, each on the span of its line. Game and release are the last values that
headers give. If the linter returns, it reports each conflict once, in order, citing what is
recorded in the end; and it returns exactly when no tag that it compares is overlong. -/
theorem collectFacts_closed (catalog : Catalog) (marks : List Text) (source : Text) :
    (∀ name, (collectFacts marks source).vars.get? name =
        settled (declarationsOf marks source name) ∧
      (declarationsOf marks source name).Pairwise (fun d e => d.line < e.line) ∧
      ∀ d, d ∈ declarationsOf marks source name ↔ SpelledOut marks source name d) ∧
    (collectFacts marks source).conflicts.Pairwise (fun x y => x.range.line < y.range.line) ∧
    (∀ x, x ∈ (collectFacts marks source).conflicts ↔
      ∃ first d raw, (declarationsOf marks source x.name).head? = some first ∧
        d ∈ declarationsOf marks source x.name ∧ d.type ≠ first.type ∧
        (splitLines source)[d.line]? = some raw ∧
        x = { name := x.name, attempted := d.type, range := lineRange d.line raw }) ∧
    (∀ i raw, ∃ before after, Blanks before ∧ Blanks after ∧
      raw = before ++ (trim raw ++ after) ∧ lineRange i raw =
        { line := i, start := before.length, stop := before.length + (trim raw).length }) ∧
    (collectFacts marks source).game = (valuesOf (ofString "game") marks source).getLast? ∧
    (collectFacts marks source).version = (valuesOf (ofString "version") marks source).getLast? ∧
    (∀ ds, validate catalog marks source = .ok ds →
      List.Forall₂ (Reports (collectFacts marks source)) (collectFacts marks source).conflicts
        (redeclared ds)) ∧
    ((∃ ds, validate catalog marks source = .ok ds) ↔
      ∀ tag ∈ compared catalog marks source, ¬ OverlongTag tag) := by
  refine ⟨fun name => ⟨get?_vars marks source name, pairwise_declarationsOf marks source name,
    fun d => mem_declarationsOf_iff_spelledOut⟩, pairwise_conflicts marks source,
    fun x => mem_conflicts_iff, lineRange_spec, ?_, ?_, fun ds => reports_of_validate,
    exists_validate_iff catalog marks source⟩
  · exact Facts.follows_game.collectFacts_eq marks source
  · exact Facts.follows_version.collectFacts_eq marks source

/-- A script that declares a variable three times, once with another type, and targets a release
twice. -/
def recount : Text :=
  joinWith ['\n'] [ofString "Meta [game=\"Rain\", version=\"4.1.0\", game=Rose]",
    ofString "Set_IntVar [\"x\", 1]", ofString "  set_boolvar [\"x\", true]",
    ofString "SET_INTVAR [\"x\", 2]", ofString "meta [version=4.2.0, Game=None]"]

theorem collectFacts_closed_recount :
    settled (declarationsOf defaultMarks recount (ofString "x")) =
      some { type := .int, command := ofString "Set_IntVar", line := 3 } ∧
    (valuesOf (ofString "game") defaultMarks recount).getLast? = some (ofString "Rose") ∧
    (valuesOf (ofString "version") defaultMarks recount).getLast? = some (ofString "4.2.0") ∧
    ∃ ds r, validate .standard defaultMarks recount = .ok ds ∧ redeclared ds = [r] ∧
      r.range = { line := 2, start := 2, stop := 25 } ∧ r.message = ofString
        "Variable 'x' cannot be redeclared as bool; previously declared as int at line 4" := by
  obtain ⟨hvars, -, -, -, hgame, hversion, hreports, hreturns⟩ :=
    collectFacts_closed .standard defaultMarks recount
  have hfacts : collectFacts defaultMarks recount =
      { vars := [(ofString "x", { type := .int, command := ofString "Set_IntVar", line := 3 })]
        conflicts := [{ name := ofString "x", attempted := .bool, range := ⟨2, 2, 25⟩ }]
        game := ofString "Rose"
        version := ofString "4.2.0" } := by decide +kernel
  obtain ⟨ds, hlint⟩ := hreturns.mpr (by decide +kernel)
  have hreported := hreports ds hlint
  rw [hfacts] at hvars hgame hversion hreported
  obtain ⟨r, rest, ⟨d, hd, rfl⟩, hrest, hall⟩ := List.forall₂_cons_left_iff.mp hreported
  obtain rfl := List.forall₂_nil_left_iff.mp hrest
  obtain rfl := Option.some.inj hd
  exact ⟨(hvars _).1.symm, hgame.symm, hversion.symm, ds, _, hlint, hall, rfl, by decide⟩

/-- A script that declares a variable with two types and targets a release with an overlong tag. -/
def disputed : Text :=
  joinWith ['\n'] [ofString "Set_IntVar [\"x\", 1]", ofString "Set_BoolVar [\"x\", true]",
    heading nines]

theorem disputed_lines : splitLines disputed =
    [ofString "Set_IntVar [\"x\", 1]", ofString "Set_BoolVar [\"x\", true]", heading nines] := by
  rw [disputed, joinWith, joinWith, joinWith, List.append_assoc, List.singleton_append,
    List.append_assoc, List.singleton_append, splitLines_append_feed (by decide) (by decide),
    splitLines_append_feed (by decide) (by decide), (heading_reads nines_digits).1]

theorem target?_disputed : target? defaultMarks disputed = some nines :=
  target?_of_heading nines_digits
    (show splitLines disputed = [_, _] ++ [heading nines] from disputed_lines)

/-- **A conflict is not reported where the linter refuses the script.** -/
theorem exists_unreported : (collectFacts defaultMarks disputed).conflicts =
      [{ name := ofString "x", attempted := .bool, range := ⟨1, 0, 23⟩ }] ∧
    validate .standard defaultMarks disputed = .error { digits := maxDigits + 1 } := by
  constructor
  · have hheading : ∀ name type, ¬ Declares defaultMarks (heading nines) name type := by
      intro name type hdecl
      obtain ⟨v, hverb, htype, -⟩ := (declares_iff (heading_reads nines_digits).2.1).mp hdecl
      obtain rfl := Option.some.inj hverb
      cases htype
    rw [collectFacts, disputed_lines, Facts.addLines, Facts.addLines, Facts.addLines,
      Facts.addLines, (Facts.addLine_of_not_declares hheading).2]
    decide
  · obtain ⟨c, hfind⟩ : ∃ c, Catalog.standard.find? (ofString "Set_IntVar") = some c := ⟨_, rfl⟩
    have hset : commandLine? defaultMarks (ofString "Set_IntVar [\"x\", 1]") =
        some (ofString "Set_IntVar", ofString "\"x\", 1") := by decide
    rw [← refusal?_eq_some_iff, refusal?_validate, compared, disputed_lines, target?_disputed,
      List.flatMap_cons, comparedOn_of_known hset hfind, Option.toList_some, List.singleton_append,
      List.cons_append, firstRefusal_of_overlong overlongTag_nines, versionDigits_nines, nines,
      List.length_replicate]

end Dialogue.Lint
