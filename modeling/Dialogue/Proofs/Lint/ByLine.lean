import Dialogue.Proofs.Lint.Declared

/-!
# What is reported on a line

The linter finds problems line by line, adds the conflicts of the first reading, and sorts all of
it. What it reports on one line in the end is still what it has found there: the problems of that
line and, if the line declares a variable otherwise than the first one did, that conflict.

* `conflictsOn`, **`collectFacts_conflicts`**: the conflicts of a script, line by line. Whether a
  declaration is one does not depend on how far the reading has come;
* `checkValue_cases`, `checkVersion_cases`, `checkGame_cases`: what one check can find;
* `lineProblems` for each kind of line: `Problem.OfKnown` are those of a known command, of its
  release, its game and its parameters (`checkLine_of_known`);
* `remarks`, `checkLines_eq_gather`: what is reported of the problems of a script, line by line;
* `redeclarations`: what is reported of the conflicts on a line, one thing at most;
* `validate_eq_sort`: what the linter reports, if it returns;
* `onLine`, **`onLine_validate`**: what is reported on a line.
-/

namespace Dialogue.Lint

open Text Script

variable {catalog : Catalog} {marks lines : List Text} {facts f : Facts} {first index i : Nat}
  {raw source : Text} {ds : List Diagnostic}

/-! ## Conflicts -/

/-- The conflict that a declaration is with what is known. -/
def conflict? (facts : Facts) (index : Nat) (raw : Text) (e : Text × Declaration) :
    Option Conflict :=
  (facts.vars.get? e.1).bind fun d =>
    if d.type = e.2.type then none
    else some { name := e.1, attempted := e.2.type, range := lineRange index raw }

/-- The conflict on a line with what is known, if there is one. -/
def conflictsOn (marks : List Text) (facts : Facts) (index : Nat) (raw : Text) : List Conflict :=
  ((declaration? marks index raw).bind (conflict? facts index raw)).toList

theorem declare_conflicts (f : Facts) (type : ParamType) (command name : Text) (index : Nat)
    (raw : Text) : (f.declare type command name index raw).conflicts =
      f.conflicts ++ (conflict? f index raw (name, { type, command, line := index })).toList := by
  rw [Facts.declare, conflict?]
  cases f.vars.get? name with
  | none => exact (List.append_nil _).symm
  | some d =>
    simp only [Option.bind_some]
    split_ifs
    · exact (List.append_nil _).symm
    · rfl

theorem addLine_conflicts (marks : List Text) (f : Facts) (index : Nat) (raw : Text) :
    (f.addLine marks index raw).conflicts = f.conflicts ++ conflictsOn marks f index raw := by
  rw [conflictsOn]
  cases h : declaration? marks index raw with
  | none =>
    have hnone : ∀ name type, ¬ Declares marks raw name type := by
      intro name type hdecl
      obtain ⟨e, he, -⟩ := exists_declaration? index hdecl
      rw [h] at he
      cases he
    rw [(Facts.addLine_of_not_declares hnone).2]
    exact (List.append_nil _).symm
  | some e =>
    obtain ⟨command, content, v, hline, hverb, htype, hname, hcommand, hindex⟩ :=
      declaration?_eq_some_iff.mp h
    rw [Facts.addLine_of_declares hline hverb htype hname, declare_conflicts]
    rfl

/-- **Whether a declaration is a conflict does not depend on how far the reading has come**: the
type of a variable is settled by its first declaration, this one if there is none before. -/
theorem conflictsOn_extends (hext : (f.addLine marks index raw).Extends facts) :
    conflictsOn marks facts index raw = conflictsOn marks f index raw := by
  rw [conflictsOn, conflictsOn]
  cases he : declaration? marks index raw with
  | none => rfl
  | some e =>
    rw [Option.bind_some, Option.bind_some, conflict?, conflict?]
    cases hold : f.vars.get? e.1 with
    | none =>
      have hvars : (f.addLine marks index raw).vars = f.vars.put e.1 e.2 := by
        rw [addLine_vars, he, Option.toList_some, List.foldl_cons, List.foldl_nil, redeclare, hold]
      have hknows : (f.addLine marks index raw).Knows e.1 e.2.type :=
        ⟨e.2, by rw [hvars, Table.get?_put, if_pos rfl], rfl⟩
      obtain ⟨d, hd, htype⟩ := hext.knows _ _ hknows
      rw [hd, Option.bind_some, Option.bind_none, if_pos htype]
    | some d =>
      have hknows : (f.addLine marks index raw).Knows e.1 d.type :=
        (Facts.addLine_extends marks f index raw).knows _ _ ⟨d, hold, rfl⟩
      obtain ⟨d', hd', htype⟩ := hext.knows _ _ hknows
      rw [hd', Option.bind_some, Option.bind_some, htype]

theorem addLines_conflicts (marks : List Text) (lines : List Text) (f : Facts) (first : Nat) :
    (f.addLines marks first lines).conflicts =
      f.conflicts ++ gather (conflictsOn marks (f.addLines marks first lines)) first lines := by
  induction lines generalizing f first with
  | nil => exact (List.append_nil _).symm
  | cons raw rest ih =>
    rw [Facts.addLines, ih, addLine_conflicts, gather, List.append_assoc,
      conflictsOn_extends (Facts.addLines_extends marks rest _ _)]

/-- **The conflicts of a script are those of its lines** with what is known in the end. -/
theorem collectFacts_conflicts (marks : List Text) (source : Text) :
    (collectFacts marks source).conflicts =
      gather (conflictsOn marks (collectFacts marks source)) 0 (splitLines source) :=
  addLines_conflicts marks (splitLines source) {} 0

/-! ## Problems -/

theorem commandLine?_eq_some_iff {parts : Text × Text} : commandLine? marks raw = some parts ↔
    isSkippable marks (trim raw) = false ∧ matchCommand (trim raw) = some parts := by
  rw [commandLine?]
  split_ifs with hskip
  · simp [hskip]
  · simp [hskip]

/-- A command line that was put together is read as one. -/
theorem commandLine?_commandLine {command content : Text} (hname : isIdentifier command = true)
    (hfeed : '\n' ∉ content) :
    commandLine? defaultMarks (commandLine command content) = some (command, content) := by
  rw [commandLine?_eq_some_iff, (commandLine_trimmed hname content).trim_eq]
  exact ⟨isSkippable_commandLine hname content, matchCommand_commandLine hname hfeed⟩

/-- The problems of a line; none are found when a number is too long. -/
def lineProblems (catalog : Catalog) (marks : List Text) (facts : Facts) (raw : Text) :
    List Problem :=
  match checkLine catalog marks facts raw with
  | .ok problems => problems
  | .error _ => []

/-- What is reported of the problems of a line. -/
def remarks (catalog : Catalog) (marks : List Text) (facts : Facts) (index : Nat) (raw : Text) :
    List Diagnostic :=
  (lineProblems catalog marks facts raw).map (·.diagnostic (lineRange index raw))

/-- **When the second reading comes to its end, it has found the problems of each line.** -/
theorem checkLines_eq_gather (h : checkLines catalog marks facts first lines = .ok ds) :
    (∀ raw ∈ lines,
      checkLine catalog marks facts raw = .ok (lineProblems catalog marks facts raw)) ∧
    ds = gather (remarks catalog marks facts) first lines := by
  induction lines generalizing first ds with
  | nil => exact ⟨fun _ hraw => (nomatch hraw), (Except.ok.inj h).symm⟩
  | cons raw rest ih =>
    obtain ⟨problems, hline, h⟩ := bind_eq_ok_iff.mp h
    obtain ⟨later, hrest, h⟩ := bind_eq_ok_iff.mp h
    obtain rfl := pure_eq_ok_iff.mp h
    obtain ⟨hall, rfl⟩ := ih hrest
    have hproblems : lineProblems catalog marks facts raw = problems := by
      rw [lineProblems, hline]
    refine ⟨List.forall_mem_cons.mpr ⟨by rw [hproblems, hline], hall⟩, ?_⟩
    rw [gather, remarks, hproblems]

/-! ### A known command -/

/-- The problem is one that a line with a known command can have. -/
def Problem.OfKnown : Problem → Prop
  | .notACommand | .unknownCommand _ | .redeclared .. => False
  | _ => True

theorem Problem.OfKnown.code {x : Problem} (hx : x.OfKnown) :
    x.code ≠ ofString "SYNTAX_INVALID_COMMAND" ∧ x.code ≠ ofString "COMMAND_UNKNOWN" := by
  cases x with
  | notACommand | unknownCommand _ | redeclared _ _ _ _ _ => cases hx
  | _ => exact ⟨by simp [Problem.code, ofString], by simp [Problem.code, ofString]⟩

/-- The problem is one that the parameters of a command can have. -/
def Problem.OfParams : Problem → Prop
  | .missingParam .. | .wrongType .. | .unnamedOption | .unknownOption .. | .unknownVariable _
  | .variableType .. | .unknownPlaceholder _ => True
  | _ => False

theorem Problem.OfParams.ofKnown {x : Problem} (hx : x.OfParams) : x.OfKnown := by
  cases x with
  | notACommand | unknownCommand _ | redeclared _ _ _ _ _ => cases hx
  | _ => trivial

/-- **A value has one error, or only warnings of placeholders.** -/
theorem checkValue_cases (facts : Facts) (p : ParamSpec) (place : Place) (written : Text) :
    (∃ x, checkValue facts p place written = [x] ∧ (x = .wrongType place p.type ∨
      (∃ name, x = .unknownVariable name) ∨
      ∃ name type line, x = .variableType name type line p.name p.type)) ∨
    ∃ names : List Text, checkValue facts p place written = names.map .unknownPlaceholder := by
  unfold checkValue
  split
  · rename_i name _
    split
    · exact .inl ⟨_, rfl, .inr (.inl ⟨name, rfl⟩)⟩
    · rename_i d _
      split_ifs
      · exact .inr ⟨[], rfl⟩
      · exact .inl ⟨_, rfl, .inr (.inr ⟨name, d.type, d.line, rfl⟩)⟩
  · split_ifs
    · unfold checkPlaceholders
      split_ifs
      · exact .inr ⟨_, rfl⟩
      · exact .inr ⟨[], rfl⟩
    · exact .inl ⟨_, rfl, .inl rfl⟩

theorem checkValue_ofParams (facts : Facts) (p : ParamSpec) (place : Place) (token : Text) :
    ∀ x ∈ checkValue facts p place token, x.OfParams := by
  intro x hx
  rcases checkValue_cases facts p place token with ⟨y, hy, hcases⟩ | ⟨names, hnames⟩
  · obtain rfl := List.mem_singleton.mp (hy ▸ hx)
    rcases hcases with rfl | ⟨name, rfl⟩ | ⟨name, type, line, rfl⟩
    · trivial
    · trivial
    · trivial
  · rw [hnames] at hx
    obtain ⟨name, -, rfl⟩ := List.mem_map.mp hx
    trivial

theorem checkRequired_ofParams (facts : Facts) (command : Text) (ps : List ParamSpec)
    (ts : List Text) : ∀ x ∈ checkRequired facts command ps ts, x.OfParams := by
  induction ps generalizing ts with
  | nil => nofun
  | cons p ps ih =>
    intro x hx
    cases ts with
    | nil =>
      rcases List.mem_cons.mp hx with rfl | hx
      · trivial
      · exact ih [] x hx
    | cons t ts =>
      rcases List.mem_append.mp hx with hx | hx
      · exact checkValue_ofParams facts p _ t x hx
      · exact ih ts x hx

theorem checkExtras_ofParams (facts : Facts) (c : Contract) (trailing : List ParamSpec)
    (ts : List Text) : ∀ x ∈ checkExtras facts c trailing ts, x.OfParams := by
  induction ts generalizing trailing with
  | nil => intro x hx; cases trailing <;> cases hx
  | cons t ts ih =>
    intro x hx
    unfold checkExtras at hx
    split at hx
    · split at hx
      · rcases List.mem_append.mp hx with hx | hx
        · exact checkValue_ofParams facts _ _ t x hx
        · exact ih _ x hx
      · rcases List.mem_cons.mp hx with rfl | hx
        · trivial
        · exact ih _ x hx
    · split at hx
      · rcases List.mem_cons.mp hx with rfl | hx
        · trivial
        · exact ih _ x hx
      · rcases List.mem_append.mp hx with hx | hx
        · exact checkValue_ofParams facts _ _ _ x hx
        · exact ih _ x hx

theorem checkParams_ofParams (facts : Facts) (c : Contract) (tokens : List Text) :
    ∀ x ∈ checkParams facts c tokens, x.OfParams := by
  intro x hx
  rcases List.mem_append.mp hx with hx | hx
  · exact checkRequired_ofParams facts c.name c.required _ x hx
  · exact checkExtras_ofParams facts c c.trailing _ x hx

/-- A command of a later release is warned of once. -/
theorem checkVersion_cases {c : Contract} {version : List Problem}
    (h : checkVersion facts c = .ok version) :
    version = [] ∨ ∃ target, version = [.tooNew c.name c.since target] := by
  obtain ⟨target, -, h⟩ := bind_eq_ok_iff.mp h
  obtain ⟨since, -, h⟩ := bind_eq_ok_iff.mp h
  split at h
  · split_ifs at h
    · exact .inr ⟨_, (pure_eq_ok_iff.mp h).symm⟩
    · exact .inl (pure_eq_ok_iff.mp h).symm
  · exact .inl (pure_eq_ok_iff.mp h).symm

theorem checkVersion_ofKnown {c : Contract} {problems : List Problem}
    (h : checkVersion facts c = .ok problems) : ∀ x ∈ problems, x.OfKnown := by
  intro x hx
  rcases checkVersion_cases h with rfl | ⟨target, rfl⟩
  · cases hx
  · obtain rfl := List.mem_singleton.mp hx
    trivial

/-- A command that the script's game does not have is warned of once. -/
theorem checkGame_cases (catalog : Catalog) (facts : Facts) (c : Contract) :
    checkGame catalog facts c = [] ∨
      ∃ game, checkGame catalog facts c = [.otherGame c.name game c.games] := by
  unfold checkGame
  split
  · exact .inl rfl
  · dsimp only
    split_ifs
    · exact .inl rfl
    · exact .inl rfl
    · exact .inr ⟨_, rfl⟩

theorem eq_otherGame_of_mem_checkGame {c : Contract} {x : Problem}
    (hx : x ∈ checkGame catalog facts c) : ∃ game, x = .otherGame c.name game c.games := by
  rcases checkGame_cases catalog facts c with hgame | ⟨game, hgame⟩
  · rw [hgame] at hx
    cases hx
  · exact ⟨game, List.mem_singleton.mp (hgame ▸ hx)⟩

theorem checkGame_ofKnown (catalog : Catalog) (facts : Facts) (c : Contract) :
    ∀ x ∈ checkGame catalog facts c, x.OfKnown := by
  intro x hx
  obtain ⟨game, rfl⟩ := eq_otherGame_of_mem_checkGame hx
  trivial

/-! ### The kinds of lines -/

theorem lineProblems_of_isSkippable (hskip : isSkippable marks (trim raw) = true) :
    lineProblems catalog marks facts raw = [] := by
  rw [lineProblems, checkLine, if_pos hskip]

theorem lineProblems_of_malformed (hskip : isSkippable marks (trim raw) = false)
    (hmatch : matchCommand (trim raw) = none) :
    lineProblems catalog marks facts raw = [.notACommand] := by
  simp only [lineProblems, checkLine, hskip, checkCommand, hmatch, if_neg Bool.false_ne_true]

/-- A line that is no command line is skipped or malformed. -/
theorem checkLine_of_no_command (hline : commandLine? marks raw = none) :
    checkLine catalog marks facts raw =
      .ok (if isSkippable marks (trim raw) then [] else [.notACommand]) := by
  rw [commandLine?] at hline
  by_cases hskip : isSkippable marks (trim raw) = true
  · rw [if_pos hskip]
    exact if_pos hskip
  · rw [if_neg hskip] at hline ⊢
    simp only [checkLine, if_neg hskip, checkCommand, hline]

/-- A line that is no command line is read whatever the numbers in it are. -/
theorem exists_checkLine_of_no_command (hline : commandLine? marks raw = none) :
    ∃ problems, checkLine catalog marks facts raw = .ok problems :=
  ⟨_, checkLine_of_no_command hline⟩

theorem checkLine_of_unknown {command content : Text}
    (hline : commandLine? marks raw = some (command, content))
    (hfind : catalog.find? command = none) :
    checkLine catalog marks facts raw = .ok [.unknownCommand command] := by
  obtain ⟨hskip, hmatch⟩ := commandLine?_eq_some_iff.mp hline
  simp only [checkLine, hskip, checkCommand, hmatch, hfind, if_neg Bool.false_ne_true]

theorem lineProblems_of_unknown {command content : Text}
    (hline : commandLine? marks raw = some (command, content))
    (hfind : catalog.find? command = none) :
    lineProblems catalog marks facts raw = [.unknownCommand command] := by
  rw [lineProblems, checkLine_of_unknown hline hfind]

/-- **A line with a known command** has the problems of the release, of the game and of its
parameters. -/
theorem checkLine_of_known {command content : Text} {c : Contract}
    (hline : commandLine? marks raw = some (command, content))
    (hfind : catalog.find? command = some c) :
    checkLine catalog marks facts raw = (checkVersion facts c).map fun version =>
      version ++ checkGame catalog facts c ++ checkParams facts c (splitParams content) := by
  obtain ⟨hskip, hmatch⟩ := commandLine?_eq_some_iff.mp hline
  simp only [checkLine, hskip, checkCommand, hmatch, hfind, if_neg Bool.false_ne_true]
  cases checkVersion facts c <;> rfl

/-- A line with a known command has no problem but with its parameters, the release and the game. -/
theorem lineProblems_ofKnown {command content : Text} {c : Contract}
    (hline : commandLine? marks raw = some (command, content))
    (hfind : catalog.find? command = some c) :
    ∀ x ∈ lineProblems catalog marks facts raw, x.OfKnown := by
  have hcheck : checkLine catalog marks facts raw = _ := checkLine_of_known hline hfind
  rw [lineProblems]
  cases hversion : checkVersion facts c with
  | error e =>
    rw [hcheck, hversion]
    nofun
  | ok version =>
    rw [hcheck, hversion]
    intro x hx
    rcases List.mem_append.mp hx with hx | hx
    · rcases List.mem_append.mp hx with hx | hx
      · exact checkVersion_ofKnown hversion x hx
      · exact checkGame_ofKnown catalog facts c x hx
    · exact (checkParams_ofParams facts c _ x hx).ofKnown

/-! ## Reports -/

/-- What is reported of the conflicts on a line. -/
def redeclarations (marks : List Text) (facts : Facts) (index : Nat) (raw : Text) :
    List Diagnostic :=
  (conflictsOn marks facts index raw).filterMap fun x =>
    (conflictProblem facts x).map (·.diagnostic x.range)

theorem length_redeclarations (marks : List Text) (facts : Facts) (index : Nat) (raw : Text) :
    (redeclarations marks facts index raw).length ≤ 1 :=
  Nat.le_trans (List.length_filterMap_le _ _) Option.length_toList_le

/-- What is reported of a conflict stands on the line that declares. -/
theorem of_mem_redeclarations {d : Diagnostic} (hd : d ∈ redeclarations marks facts index raw) :
    d.code = ofString "VARIABLE_REDECLARED" ∧ d.range = lineRange index raw ∧
      (commandLine? marks raw).isSome := by
  obtain ⟨x, hx, hreport⟩ := List.mem_filterMap.mp hd
  obtain ⟨problem, hproblem, rfl⟩ := Option.map_eq_some_iff.mp hreport
  obtain ⟨e, he, hconflict⟩ := Option.bind_eq_some_iff.mp (Option.mem_toList.mp hx)
  obtain ⟨old, -, hx⟩ := Option.bind_eq_some_iff.mp hconflict
  obtain ⟨known, -, rfl⟩ := Option.map_eq_some_iff.mp hproblem
  obtain ⟨command, content, -, hline, -⟩ := declaration?_eq_some_iff.mp he
  split_ifs at hx
  obtain rfl := Option.some.inj hx
  exact ⟨rfl, rfl, by rw [hline]; rfl⟩

theorem conflictDiagnostics_eq_gather (marks : List Text) (source : Text) :
    conflictDiagnostics (collectFacts marks source) =
      gather (redeclarations marks (collectFacts marks source)) 0 (splitLines source) := by
  rw [conflictDiagnostics, collectFacts_conflicts, filterMap_gather]
  rfl

/-- **When the linter returns, it has found the problems of each line**, and reports these and the
conflicts, sorted. -/
theorem validate_eq_sort (hlint : validate catalog marks source = .ok ds) :
    (∀ raw ∈ splitLines source, checkLine catalog marks (collectFacts marks source) raw =
      .ok (lineProblems catalog marks (collectFacts marks source) raw)) ∧
    ds = sortDiagnostics
      (gather (remarks catalog marks (collectFacts marks source)) 0 (splitLines source) ++
        conflictDiagnostics (collectFacts marks source)) := by
  obtain ⟨found, hfound, h⟩ := bind_eq_ok_iff.mp hlint
  obtain ⟨hall, rfl⟩ := checkLines_eq_gather hfound
  exact ⟨hall, (pure_eq_ok_iff.mp h).symm⟩

/-- What is reported on the line of a number. -/
def onLine (ds : List Diagnostic) (i : Nat) : List Diagnostic :=
  ds.filter fun d => d.range.line = (i : Int)

/-- Sorting takes nothing from a line to another. -/
theorem onLine_sortDiagnostics (xs ys : List Diagnostic) (i : Nat) :
    (onLine (sortDiagnostics (xs ++ ys)) i).Perm (onLine xs i ++ onLine ys i) := by
  have hperm : (onLine (sortDiagnostics (xs ++ ys)) i).Perm (onLine (xs ++ ys) i) :=
    (List.mergeSort_perm (xs ++ ys) Diagnostic.le).filter _
  rwa [onLine, onLine, List.filter_append] at hperm

/-- What is reported line by line is on the line that it is reported for. -/
theorem onLine_gather {g : Nat → Text → List Diagnostic}
    (hg : ∀ i raw, ∀ d ∈ g i raw, d.range = lineRange i raw) (hraw : lines[i]? = some raw) :
    onLine (gather g 0 lines) i = g i raw := by
  have hline : ∀ i raw, ∀ d ∈ g i raw, d.range.line = i := by
    intro i raw d hd
    rw [hg i raw d hd]
    rfl
  have h := filter_gather (fun d : Diagnostic => d.range.line) hline 0 hraw
  rwa [Nat.zero_add] at h

/-- **What is reported on a line** are its problems and its conflict. -/
theorem onLine_validate (hlint : validate catalog marks source = .ok ds)
    (hraw : (splitLines source)[i]? = some raw) :
    checkLine catalog marks (collectFacts marks source) raw =
        .ok (lineProblems catalog marks (collectFacts marks source) raw) ∧
      (onLine ds i).Perm (remarks catalog marks (collectFacts marks source) i raw ++
        redeclarations marks (collectFacts marks source) i raw) := by
  obtain ⟨hall, rfl⟩ := validate_eq_sort hlint
  refine ⟨hall raw (List.mem_of_getElem? hraw), ?_⟩
  have hperm := onLine_sortDiagnostics
    (gather (remarks catalog marks (collectFacts marks source)) 0 (splitLines source))
    (conflictDiagnostics (collectFacts marks source)) i
  have hremarks : ∀ i raw, ∀ d ∈ remarks catalog marks (collectFacts marks source) i raw,
      d.range = lineRange i raw := by
    intro i raw d hd
    obtain ⟨x, -, rfl⟩ := List.mem_map.mp hd
    rfl
  have hconflicts : onLine (conflictDiagnostics (collectFacts marks source)) i =
      redeclarations marks (collectFacts marks source) i raw := by
    rw [conflictDiagnostics_eq_gather]
    exact onLine_gather (fun i raw d hd => (of_mem_redeclarations hd).2.1) hraw
  rwa [onLine_gather hremarks hraw, hconflicts] at hperm

/-- A code other than that of the conflicts is reported on a line for one of its problems. -/
theorem exists_onLine_code_iff {code : Text} (hlint : validate catalog marks source = .ok ds)
    (hraw : (splitLines source)[i]? = some raw) (hcode : code ≠ ofString "VARIABLE_REDECLARED") :
    (∃ d ∈ onLine ds i, d.code = code) ↔
      ∃ x ∈ lineProblems catalog marks (collectFacts marks source) raw, x.code = code := by
  have hperm := (onLine_validate hlint hraw).2
  constructor
  · rintro ⟨d, hd, rfl⟩
    rcases List.mem_append.mp (hperm.mem_iff.mp hd) with hd | hd
    · obtain ⟨x, hx, rfl⟩ := List.mem_map.mp hd
      exact ⟨x, hx, rfl⟩
    · exact absurd (of_mem_redeclarations hd).1 hcode
  · rintro ⟨x, hx, rfl⟩
    exact ⟨x.diagnostic (lineRange i raw),
      hperm.mem_iff.mpr (List.mem_append_left _ (List.mem_map_of_mem hx)), rfl⟩

end Dialogue.Lint
