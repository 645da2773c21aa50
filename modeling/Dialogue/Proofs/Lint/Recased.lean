import Dialogue.Proofs.Lint.Alike
import Dialogue.Proofs.Lint.Releases
import Dialogue.Proofs.Script.Recased

/-!
# What the linter says of commands in another letter case

Both readings look commands up by their small letters. The letter case is kept in two places only: the
first reading keeps the command that declared a variable, which is what the hint on a conflict quotes, and
a command that is not known is quoted as typed. What is reported is sorted by line, column and code, and
so comes in the same order.

* `Facts.uncased`, **`collectFacts_recased`**: what the first reading knows;
* `Problem.Respelled`, `checkLine_recased`: what the second reading finds on a line;
* `Diagnostic.Respelled`: the same report, but for a command that it quotes;
* `forall₂_mergeSort`: related reports are sorted alike;
* **`validate_recased`**: what is reported.
-/

namespace Dialogue

open Text Script

/-- The reports are the same, but for a command that they quote. -/
structure Diagnostic.Respelled (d d' : Diagnostic) : Prop where
  code : d'.code = d.code
  severity : d'.severity = d.severity
  category : d'.category = d.category
  range : d'.range = d.range
  message : d'.message = d.message ∨ d.code = ofString "COMMAND_UNKNOWN" ∧
    ∃ command command', lower command' = lower command ∧
      d.message = ofString "Unknown Oyster command: " ++ command ∧
      d'.message = ofString "Unknown Oyster command: " ++ command'
  hint : d'.hint = d.hint ∨ d.code = ofString "VARIABLE_REDECLARED" ∧
    ∃ name command command', lower command' = lower command ∧
      d.hint = some (ofString "Use " ++ command ++ ofString " to update '" ++ name ++
        ofString "' or pick a new name.") ∧
      d'.hint = some (ofString "Use " ++ command' ++ ofString " to update '" ++ name ++
        ofString "' or pick a new name.")

theorem Diagnostic.Respelled.le_eq {a b a' b' : Diagnostic} (ha : a.Respelled a')
    (hb : b.Respelled b') : a.le b = a'.le b' := by
  unfold Diagnostic.le
  rw [ha.range, hb.range, ha.code, hb.code]

namespace Lint

variable {catalog : Catalog} {marks : List Text} {f f' : Facts} {raw raw' source source' : Text}

/-! ## Lines -/

theorem lineRange_recased (h : Recased raw raw') (index : Nat) :
    lineRange index raw' = lineRange index raw := by
  obtain ⟨hlength, hleft, htrim⟩ := h.lengths
  unfold lineRange
  rw [hlength, hleft, htrim]

theorem commandLine?_of_matchCommand {parts : Text × Text} (h : matchCommand (trim raw) = some parts) :
    commandLine? defaultMarks raw = some parts :=
  commandLine?_eq_some_iff.mpr ⟨isSkippable_of_matchCommand (by rw [h]; rfl), h⟩

/-- Command, in small letters, and content of a line. -/
def keyedLine? (raw : Text) : Option (Text × Text) :=
  (commandLine? defaultMarks raw).map fun parts => (lower parts.1, parts.2)

theorem keyedLine?_recased (h : Recased raw raw') : keyedLine? raw' = keyedLine? raw := by
  rcases h.read with rfl | ⟨command, command', content, hline, hline', hlower⟩
  · rfl
  · unfold keyedLine?
    rw [commandLine?_of_matchCommand hline, commandLine?_of_matchCommand hline', Option.map_some,
      Option.map_some, hlower]

/-! ## The first reading -/

/-- The declaration with its command in small letters. -/
def Declaration.uncased (d : Declaration) : Declaration := { d with command := lower d.command }

namespace Facts

/-- What is known, with commands in small letters. -/
def uncased (f : Facts) : Facts := { f with vars := f.vars.mapValues Declaration.uncased }

theorem get?_uncased (f : Facts) (name : Text) :
    f.uncased.vars.get? name = (f.vars.get? name).map Declaration.uncased :=
  Table.get?_mapValues Declaration.uncased f.vars name

theorem foldl_addHeader_uncased (tokens : List Text) (f : Facts) :
    (tokens.foldl addHeader f).uncased = tokens.foldl addHeader f.uncased := by
  obtain ⟨hvars, hconflicts⟩ := foldl_addHeader_vars tokens f
  rw [uncased, hvars, hconflicts]
  exact (foldl_addHeader_withDeclared tokens f f.uncased.vars f.conflicts).symm

/-- A declaration does not look at the commands of others. -/
theorem declare_uncased (f : Facts) (type : ParamType) (command name : Text) (index : Nat)
    (raw : Text) : (f.declare type command name index raw).uncased =
      f.uncased.declare type (lower command) name index raw := by
  have hput : ∀ d : Declaration, Facts.uncased { f with vars := f.vars.put name d } =
      { f.uncased with vars := f.uncased.vars.put name d.uncased } := fun d =>
    congrArg (fun vars => { f with vars })
      (Table.put_mapValues Declaration.uncased name d f.vars).symm
  unfold declare
  rw [get?_uncased]
  cases f.vars.get? name with
  | none => exact hput { type, command, line := index }
  | some d =>
    have htype : d.uncased.type = d.type := rfl
    simp only [Option.map_some, htype]
    split
    · exact hput { d with line := index }
    · rfl

/-- Of its line a declaration keeps the range. -/
theorem declare_of_lineRange {index : Nat} (h : lineRange index raw' = lineRange index raw)
    (f : Facts) (type : ParamType) (command name : Text) :
    f.declare type command name index raw' = f.declare type command name index raw := by
  unfold declare
  rw [h]

/-- **A line adds the same in any letter case of its command.** -/
theorem addLine_recased (hf : f'.uncased = f.uncased) (h : Recased raw raw') (index : Nat) :
    (f'.addLine defaultMarks index raw').uncased = (f.addLine defaultMarks index raw).uncased := by
  have hkeyed := keyedLine?_recased h
  have hrange := lineRange_recased h index
  unfold keyedLine? at hkeyed
  unfold addLine
  cases hline : commandLine? defaultMarks raw with
  | none =>
    rw [hline, Option.map_none, Option.map_eq_none_iff] at hkeyed
    rw [hkeyed]
    exact hf
  | some parts =>
    rw [hline] at hkeyed
    obtain ⟨parts', hline', hsame⟩ := Option.map_eq_some_iff.mp hkeyed
    obtain ⟨hlower, hcontent⟩ := Prod.mk.inj hsame
    have hdeclare : ∀ type name, (f'.declare type parts'.1 name index raw').uncased =
        (f.declare type parts.1 name index raw).uncased := by
      intro type name
      rw [declare_uncased, declare_uncased, hf, hlower, declare_of_lineRange hrange]
    rw [hline']
    dsimp only
    rw [hlower, hcontent]
    split
    · exact hf
    · rw [foldl_addHeader_uncased, foldl_addHeader_uncased, hf]
    · split
      · exact hdeclare _ _
      · exact hf

end Facts

/-- **The same is known in any letter case**, but for the commands that declared. -/
theorem collectFacts_recased (h : RecasedScript source source') :
    (collectFacts defaultMarks source').uncased = (collectFacts defaultMarks source).uncased := by
  have hlines : ∀ {lines lines' : List Text}, List.Forall₂ Recased lines lines' →
      ∀ {f f' : Facts} (first : Nat), f'.uncased = f.uncased →
        (f'.addLines defaultMarks first lines').uncased =
          (f.addLines defaultMarks first lines).uncased := by
    intro lines lines' h
    induction h with
    | nil => exact fun _ hf => hf
    | cons hraw hrest ih => exact fun first hf => ih (first + 1) (Facts.addLine_recased hf hraw first)
  exact hlines h 0 rfl

/-- Nothing but the declaring commands depends on the letter case. -/
theorem Facts.of_uncased (h : f'.uncased = f.uncased) :
    f'.vars.map (fun e => (e.1, e.2.type, e.2.line)) =
        f.vars.map (fun e => (e.1, e.2.type, e.2.line)) ∧
      f'.conflicts = f.conflicts ∧ f'.game = f.game ∧ f'.version = f.version := by
  have hvars : f'.uncased.vars.map (fun e => (e.1, e.2.type, e.2.line)) =
      f.uncased.vars.map fun e => (e.1, e.2.type, e.2.line) := by rw [h]
  have hconflicts : f'.uncased.conflicts = f.uncased.conflicts := by rw [h]
  have hgame : f'.uncased.game = f.uncased.game := by rw [h]
  have hversion : f'.uncased.version = f.uncased.version := by rw [h]
  simp only [uncased, Table.mapValues, List.map_map] at hvars
  exact ⟨hvars, hconflicts, hgame, hversion⟩

theorem Facts.alike_of_uncased (h : f'.uncased = f.uncased) : f.Alike id id f' where
  vars name := by
    have hget := congrArg (fun f : Facts => f.vars.get? name) h
    simp only [Facts.get?_uncased] at hget
    have hpair := congrArg (Option.map fun d : Declaration => (d.type, d.line)) hget
    rwa [Option.map_map, Option.map_map] at hpair
  game := (of_uncased h).2.2.1
  version := (of_uncased h).2.2.2

/-! ## The second reading -/

/-- The problems are the same, but for the spelling of a command. -/
inductive Problem.Respelled : Problem → Problem → Prop
  | same (x : Problem) : Respelled x x
  | unknownCommand {command command' : Text} (h : lower command' = lower command) :
      Respelled (.unknownCommand command) (.unknownCommand command')
  | redeclared (name : Text) (attempted declared : ParamType) (line : Nat) {command command' : Text}
      (h : lower command' = lower command) :
      Respelled (.redeclared name attempted declared line command)
        (.redeclared name attempted declared line command')

theorem Problem.Respelled.diagnostic {x x' : Problem} (h : x.Respelled x') (range : TextRange) :
    (x.diagnostic range).Respelled (x'.diagnostic range) := by
  cases h with
  | same x => exact ⟨rfl, rfl, rfl, rfl, .inl rfl, .inl rfl⟩
  | unknownCommand h =>
    exact ⟨rfl, rfl, rfl, rfl, .inr ⟨rfl, _, _, h, rfl, rfl⟩, .inl rfl⟩
  | redeclared name attempted declared line h =>
    exact ⟨rfl, rfl, rfl, rfl, .inl rfl, .inr ⟨rfl, name, _, _, h, rfl, rfl⟩⟩

/-- What is known of the declaring commands plays no part in checking a line. -/
theorem checkLine_uncased (h : f'.uncased = f.uncased) (catalog : Catalog) (marks : List Text)
    (raw : Text) : checkLine catalog marks f' raw = checkLine catalog marks f raw := by
  have halike := checkLine_alike (Facts.alike_of_uncased h) catalog marks raw
  rwa [Problem.relined_id, List.map_id_fun, Except.map_id, id_eq, id_eq] at halike

theorem find?_of_lower {command command' : Text} (h : lower command' = lower command)
    (catalog : Catalog) : catalog.find? command' = catalog.find? command :=
  congrArg catalog.table.get? h

/-- **The same is found on a line**, but for the spelling of a command that is not known. -/
theorem lineProblems_recased (hf : f'.uncased = f.uncased) (h : Recased raw raw')
    (catalog : Catalog) : List.Forall₂ Problem.Respelled
      (lineProblems catalog defaultMarks f raw) (lineProblems catalog defaultMarks f' raw') := by
  have hsame : ∀ {xs : List Problem}, List.Forall₂ Problem.Respelled xs xs :=
    List.forall₂_same.mpr fun x _ => .same x
  have hfacts : lineProblems catalog defaultMarks f' raw' =
      lineProblems catalog defaultMarks f raw' := by
    unfold lineProblems
    rw [checkLine_uncased hf]
  rw [hfacts]
  rcases h.read with rfl | ⟨command, command', content, hline, hline', hlower⟩
  · exact hsame
  · have hread := commandLine?_of_matchCommand hline
    have hread' := commandLine?_of_matchCommand hline'
    have hfind := find?_of_lower hlower catalog
    cases hknown : catalog.find? command with
    | none =>
      rw [lineProblems_of_unknown hread hknown, lineProblems_of_unknown hread' (hfind.trans hknown)]
      exact .cons (.unknownCommand hlower) .nil
    | some c =>
      unfold lineProblems
      rw [checkLine_of_known hread hknown, checkLine_of_known hread' (hfind.trans hknown)]
      exact hsame

theorem remarks_recased (hf : f'.uncased = f.uncased) (h : Recased raw raw') (catalog : Catalog)
    (index : Nat) : List.Forall₂ Diagnostic.Respelled
      (remarks catalog defaultMarks f index raw) (remarks catalog defaultMarks f' index raw') := by
  unfold remarks
  rw [lineRange_recased h, List.forall₂_map_left_iff, List.forall₂_map_right_iff]
  exact (lineProblems_recased hf h catalog).imp fun _ _ hx => hx.diagnostic (lineRange index raw)

theorem gather_remarks_recased (hf : f'.uncased = f.uncased) {lines lines' : List Text}
    (h : List.Forall₂ Recased lines lines') (catalog : Catalog) (first : Nat) :
    List.Forall₂ Diagnostic.Respelled (gather (remarks catalog defaultMarks f) first lines)
      (gather (remarks catalog defaultMarks f') first lines') := by
  induction h generalizing first with
  | nil => exact .nil
  | cons hraw hrest ih =>
    exact List.rel_append (remarks_recased hf hraw catalog first) (ih (first + 1))

/-! ## Conflicts -/

theorem conflictDiagnostics_recased (hf : f'.uncased = f.uncased) :
    List.Forall₂ Diagnostic.Respelled (conflictDiagnostics f) (conflictDiagnostics f') := by
  have hproblem : ∀ x, (conflictProblem f x = none ∧ conflictProblem f' x = none) ∨
      ∃ y y', conflictProblem f x = some y ∧ conflictProblem f' x = some y' ∧ y.Respelled y' := by
    intro x
    have hget := congrArg (fun f : Facts => f.vars.get? x.name) hf
    simp only [Facts.get?_uncased] at hget
    unfold conflictProblem
    cases hold : f.vars.get? x.name with
    | none =>
      rw [hold, Option.map_none, Option.map_eq_none_iff] at hget
      exact .inl ⟨rfl, by rw [hget]; rfl⟩
    | some d =>
      rw [hold] at hget
      obtain ⟨d', hnew, hsame⟩ := Option.map_eq_some_iff.mp hget
      obtain ⟨htype, hlower, hline⟩ := Declaration.mk.inj hsame
      rw [hnew]
      refine .inr ⟨_, _, rfl, rfl, ?_⟩
      dsimp only
      rw [htype, hline]
      exact .redeclared x.name x.attempted d.type d.line hlower
  unfold conflictDiagnostics
  rw [(Facts.of_uncased hf).2.1]
  induction f.conflicts with
  | nil => exact .nil
  | cons x xs ih =>
    rw [List.filterMap_cons, List.filterMap_cons]
    rcases hproblem x with ⟨hnone, hnone'⟩ | ⟨y, y', hsome, hsome', hy⟩
    · rw [hnone, hnone']
      exact ih
    · rw [hsome, hsome']
      exact .cons (hy.diagnostic x.range) ih

/-! ## Reports -/

/-- **Related things are sorted alike**, if their order is. -/
theorem forall₂_mergeSort {α β : Type} {R : α → β → Prop} {le : α → α → Bool} {le' : β → β → Bool}
    (hle : ∀ a b a' b', R a a' → R b b' → le a b = le' a' b') {xs : List α} {ys : List β}
    (h : List.Forall₂ R xs ys) : List.Forall₂ R (xs.mergeSort le) (ys.mergeSort le') := by
  obtain ⟨hlength, hrel⟩ := List.forall₂_iff_zip.mp h
  have hfst := List.map_mergeSort (r := fun z w => le z.1 w.1) (s := le) (f := Prod.fst)
    (l := xs.zip ys) fun _ _ _ _ => rfl
  have hsnd := List.map_mergeSort (r := fun z w => le z.1 w.1) (s := le') (f := Prod.snd)
    (l := xs.zip ys) fun z hz w hw => hle _ _ _ _ (hrel hz) (hrel hw)
  rw [List.map_fst_zip hlength.le] at hfst
  rw [List.map_snd_zip hlength.ge] at hsnd
  rw [← hfst, ← hsnd, List.forall₂_map_left_iff, List.forall₂_map_right_iff]
  exact List.forall₂_same.mpr fun z hz => hrel (List.mem_mergeSort.mp hz)

/-- The linter refuses both scripts for the same, if it does. -/
theorem refusal?_validate_recased (h : RecasedScript source source') (catalog : Catalog) :
    refusal? (validate catalog defaultMarks source') =
      refusal? (validate catalog defaultMarks source) := by
  have htarget : target? defaultMarks source' = target? defaultMarks source := by
    rw [← collectFacts_version, ← collectFacts_version]
    exact (Facts.alike_of_uncased (collectFacts_recased h)).version
  have hcompared : ∀ {raw raw' : Text} (target : Option Text), Recased raw raw' →
      comparedOn catalog defaultMarks target raw' = comparedOn catalog defaultMarks target raw := by
    intro raw raw' target h
    rcases h.read with rfl | ⟨command, command', content, hline, hline', hlower⟩
    · rfl
    · unfold comparedOn
      rw [commandLine?_of_matchCommand hline, commandLine?_of_matchCommand hline', Option.bind_some,
        Option.bind_some, find?_of_lower hlower]
  have hlines : ∀ {lines lines' : List Text} (target : Option Text), List.Forall₂ Recased lines lines' →
      lines'.flatMap (comparedOn catalog defaultMarks target) =
        lines.flatMap (comparedOn catalog defaultMarks target) := by
    intro lines lines' target h
    induction h with
    | nil => rfl
    | cons hraw hrest ih => rw [List.flatMap_cons, List.flatMap_cons, hcompared target hraw, ih]
  rw [refusal?_validate, refusal?_validate, compared, compared, htarget, hlines _ h]

/-- **The same is reported in the same order**, but for the spelling of commands that are quoted. -/
theorem validate_recased (h : RecasedScript source source') (catalog : Catalog) :
    (∀ e, validate catalog defaultMarks source' = .error e ↔
      validate catalog defaultMarks source = .error e) ∧
    ∀ ds ds', validate catalog defaultMarks source = .ok ds →
      validate catalog defaultMarks source' = .ok ds' →
        List.Forall₂ Diagnostic.Respelled ds ds' := by
  refine ⟨fun e => ?_, fun ds ds' hlint hlint' => ?_⟩
  · rw [← refusal?_eq_some_iff, ← refusal?_eq_some_iff, refusal?_validate_recased h]
  · have hfacts := collectFacts_recased h
    obtain ⟨-, rfl⟩ := validate_eq_sort hlint
    obtain ⟨-, rfl⟩ := validate_eq_sort hlint'
    refine forall₂_mergeSort ?_ (List.rel_append (gather_remarks_recased hfacts h catalog 0)
      (conflictDiagnostics_recased hfacts))
    exact fun a b a' b' ha hb => ha.le_eq hb

end Lint

end Dialogue
