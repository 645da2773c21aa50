import Dialogue.Catalog.Standard
import Dialogue.Editor.Symbols
import Dialogue.Proofs.Lint.ByLine

/-!
# Every line is accounted for

The parser, the linter and the editor go through the lines of a script each for itself. A line is
blank or a comment, or a command line, or neither, and the three of them agree on which: the parser
makes a statement of command lines only, the linter calls malformed just the lines that are neither,
and the editor describes what the parser reads.

* `LineKind`, `LineKind.exists_unique`: the three kinds of lines;
* `LineKind.Accounted`: what the readers make of a line of the kind;
* `Catalog.commandAt_eq`: the editor describes the statement on the line;
* **`accounted`**: each line of a script is accounted for as one of its kind, by all readers. A
  catalog without commands stands for the standard one (`commandAt_borrowed`).
-/

namespace Dialogue

open Text Script Lint

/-- The kinds of lines of a script. -/
inductive LineKind where
  /-- Blank or a comment. -/
  | skipped
  /-- Neither blank, nor a comment, nor a command line. -/
  | malformed
  | command
  deriving DecidableEq, Repr

variable {catalog : Catalog} {source raw : Text} {ds : List Diagnostic} {i : Nat}

namespace LineKind

/-- The line is of the kind. -/
def Of : LineKind → Text → Prop
  | skipped, raw => isSkippable defaultMarks (trim raw) = true
  | malformed, raw =>
    isSkippable defaultMarks (trim raw) = false ∧ matchCommand (trim raw) = none
  | command, raw => (matchCommand (trim raw)).isSome

/-- **Every line is of one kind.** -/
theorem exists_unique (raw : Text) : ∃! kind : LineKind, kind.Of raw := by
  cases hmatch : matchCommand (trim raw) with
  | some parts =>
    have hsome : (matchCommand (trim raw)).isSome := by rw [hmatch]; rfl
    have hskip := isSkippable_of_matchCommand hsome
    refine ⟨command, hsome, fun kind hkind => ?_⟩
    cases kind with
    | skipped => exact absurd hkind (by rw [Of, hskip]; simp)
    | malformed => exact absurd hkind.2 (by rw [hmatch]; simp)
    | command => rfl
  | none =>
    cases hskip : isSkippable defaultMarks (trim raw) with
    | true =>
      refine ⟨skipped, hskip, fun kind hkind => ?_⟩
      cases kind with
      | skipped => rfl
      | malformed => exact absurd hkind.1 (by rw [hskip]; simp)
      | command => exact absurd hkind (by rw [Of, hmatch]; simp)
    | false =>
      refine ⟨malformed, ⟨hskip, hmatch⟩, fun kind hkind => ?_⟩
      cases kind with
      | skipped => exact absurd hkind (by rw [Of, hskip]; simp)
      | malformed => rfl
      | command => exact absurd hkind (by rw [Of, hmatch]; simp)

/-- What parser, linter and editor make of line `i` of a script, the line `raw`, when it is of the
kind. -/
def Accounted (catalog : Catalog) (source : Text) (ds : List Diagnostic) (i : Nat) (raw : Text) :
    LineKind → Prop
  | skipped =>
    (parse defaultMarks source).filter (fun s => s.line = (i : Int)) = [] ∧
    onLine ds i = [] ∧ catalog.commandAt source i = none
  | malformed =>
    (parse defaultMarks source).filter (fun s => s.line = (i : Int)) = [] ∧
    (∃ d, onLine ds i = [d] ∧ d.code = ofString "SYNTAX_INVALID_COMMAND") ∧
    catalog.commandAt source i = none
  | command => ∃ s, Statement.ofLine defaultMarks i raw = some s ∧
    (parse defaultMarks source).filter (fun s => s.line = (i : Int)) = [s] ∧
    (∀ d ∈ onLine ds i, d.code ≠ ofString "SYNTAX_INVALID_COMMAND") ∧
    catalog.commandAt source i = catalog.describe s.command ∧
    (catalog.describe s.command = none ↔
      ∃ d ∈ onLine ds i, d.code = ofString "COMMAND_UNKNOWN") ∧
    -- an unknown command is all there is to say of a line, but for a declaration that conflicts
    (catalog.describe s.command = none → ∃ d, d.code = ofString "COMMAND_UNKNOWN" ∧
      ((onLine ds i).Perm [d] ∨
        ∃ e, e.code = ofString "VARIABLE_REDECLARED" ∧ (onLine ds i).Perm [d, e]))

end LineKind

/-- **The editor describes the statement on the line.** -/
theorem Catalog.commandAt_eq (hraw : (splitLines source)[i]? = some raw) :
    catalog.commandAt source i =
      (Statement.ofLine defaultMarks i raw).bind fun s => catalog.describe s.command := by
  rw [Catalog.commandAt, if_neg (Int.not_lt.mpr (Int.natCast_nonneg i)), Int.toNat_natCast, hraw]
  rfl

/-! ## One kind at a time -/

section Kinds

variable (hlint : validate catalog defaultMarks source = .ok ds)
  (hraw : (splitLines source)[i]? = some raw)

include hlint hraw

/-- A line that is no command line has nothing but its own problem reported. -/
theorem onLine_of_no_command (hline : commandLine? defaultMarks raw = none) :
    (onLine ds i).Perm
      (remarks catalog defaultMarks (collectFacts defaultMarks source) i raw) := by
  have hperm := (onLine_validate hlint hraw).2
  have hnone : redeclarations defaultMarks (collectFacts defaultMarks source) i raw = [] := by
    refine List.eq_nil_iff_forall_not_mem.mpr fun d hd => ?_
    have hcommand := (of_mem_redeclarations hd).2.2
    rw [hline] at hcommand
    cases hcommand
  rwa [hnone, List.append_nil] at hperm

theorem accounted_skipped (hkind : LineKind.skipped.Of raw) :
    LineKind.skipped.Accounted catalog source ds i raw := by
  have hnone : Statement.ofLine defaultMarks i raw = none := if_pos hkind
  have hperm := onLine_of_no_command hlint hraw (if_pos hkind)
  rw [remarks, lineProblems_of_isSkippable hkind] at hperm
  refine ⟨?_, hperm.eq_nil, ?_⟩
  · rw [filter_parse hraw, hnone]
    rfl
  · rw [Catalog.commandAt_eq hraw, hnone]
    rfl

theorem accounted_malformed (hkind : LineKind.malformed.Of raw) :
    LineKind.malformed.Accounted catalog source ds i raw := by
  obtain ⟨hskip, hmatch⟩ := hkind
  have hnone : Statement.ofLine defaultMarks i raw = none := by
    simp [Statement.ofLine, hmatch]
  have hperm := onLine_of_no_command hlint hraw (by simp [commandLine?, hmatch])
  rw [remarks, lineProblems_of_malformed hskip hmatch] at hperm
  refine ⟨?_, ⟨_, List.perm_singleton.mp hperm, rfl⟩, ?_⟩
  · rw [filter_parse hraw, hnone]
    rfl
  · rw [Catalog.commandAt_eq hraw, hnone]
    rfl

/-- A line with a known command is reported neither as malformed nor as unknown. -/
theorem onLine_of_known {command content : Text} {c : Contract}
    (hline : commandLine? defaultMarks raw = some (command, content))
    (hfind : catalog.find? command = some c) : ∀ d ∈ onLine ds i,
      d.code ≠ ofString "SYNTAX_INVALID_COMMAND" ∧ d.code ≠ ofString "COMMAND_UNKNOWN" := by
  intro d hd
  rcases List.mem_append.mp ((onLine_validate hlint hraw).2.mem_iff.mp hd) with hd | hd
  · obtain ⟨x, hx, rfl⟩ := List.mem_map.mp hd
    exact (lineProblems_ofKnown hline hfind x hx).code
  · rw [(of_mem_redeclarations hd).1]
    exact ⟨by simp [ofString], by simp [ofString]⟩

/-- **A line with an unknown command** is reported as that, and perhaps as a declaration that
conflicts. -/
theorem onLine_of_unknown {command content : Text}
    (hline : commandLine? defaultMarks raw = some (command, content))
    (hfind : catalog.find? command = none) : ∃ d, d.code = ofString "COMMAND_UNKNOWN" ∧
      ((onLine ds i).Perm [d] ∨
        ∃ e, e.code = ofString "VARIABLE_REDECLARED" ∧ (onLine ds i).Perm [d, e]) := by
  have hperm := (onLine_validate hlint hraw).2
  have hlength := length_redeclarations defaultMarks (collectFacts defaultMarks source) i raw
  rw [remarks, lineProblems_of_unknown hline hfind] at hperm
  refine ⟨(Problem.unknownCommand command).diagnostic (lineRange i raw), rfl, ?_⟩
  cases hconflict : redeclarations defaultMarks (collectFacts defaultMarks source) i raw with
  | nil =>
    rw [hconflict] at hperm
    exact .inl hperm
  | cons e rest =>
    have hcode := (of_mem_redeclarations (hconflict ▸ List.mem_cons_self)).1
    rw [hconflict, List.length_cons] at hlength
    obtain rfl : rest = [] := List.eq_nil_of_length_eq_zero (by omega)
    rw [hconflict] at hperm
    exact .inr ⟨e, hcode, hperm⟩

theorem accounted_command (hkind : LineKind.command.Of raw) :
    LineKind.command.Accounted catalog source ds i raw := by
  have hskip := isSkippable_of_matchCommand hkind
  obtain ⟨⟨command, content⟩, hmatch⟩ := Option.isSome_iff_exists.mp hkind
  have hline : commandLine? defaultMarks raw = some (command, content) :=
    commandLine?_eq_some_iff.mpr ⟨hskip, hmatch⟩
  obtain ⟨s, hs, rfl⟩ : ∃ s, Statement.ofLine defaultMarks i raw = some s ∧ s.command = command :=
    ⟨_, Statement.ofLine_eq_some_iff.mpr ⟨hskip, command, content, hmatch, rfl⟩, rfl⟩
  have hparse : (parse defaultMarks source).filter (fun s => s.line = (i : Int)) = [s] := by
    rw [filter_parse hraw, hs]
    rfl
  have hdescribe : catalog.commandAt source i = catalog.describe s.command := by
    rw [Catalog.commandAt_eq hraw, hs]
    rfl
  cases hfind : catalog.find? s.command with
  | some c =>
    have hreport := onLine_of_known hlint hraw hline hfind
    have hknown : catalog.describe s.command ≠ none := by simp [Catalog.describe, hfind]
    refine ⟨s, hs, hparse, fun d hd => (hreport d hd).1, hdescribe, ?_, fun h => absurd h hknown⟩
    constructor
    · intro h
      exact absurd h hknown
    · rintro ⟨d, hd, hcode⟩
      exact absurd hcode (hreport d hd).2
  | none =>
    have hunknown : catalog.describe s.command = none := by simp [Catalog.describe, hfind]
    obtain ⟨d, hcode, hreport⟩ := onLine_of_unknown hlint hraw hline hfind
    have honly : ∀ x ∈ onLine ds i,
        x.code = ofString "COMMAND_UNKNOWN" ∨ x.code = ofString "VARIABLE_REDECLARED" := by
      intro x hx
      rcases hreport with hperm | ⟨e, he, hperm⟩
      · obtain rfl := List.mem_singleton.mp (hperm.mem_iff.mp hx)
        exact .inl hcode
      · rcases List.mem_pair.mp (hperm.mem_iff.mp hx) with rfl | rfl
        · exact .inl hcode
        · exact .inr he
    have hmem : d ∈ onLine ds i := by
      rcases hreport with hperm | ⟨e, -, hperm⟩
      · exact hperm.mem_iff.mpr List.mem_cons_self
      · exact hperm.mem_iff.mpr List.mem_cons_self
    refine ⟨s, hs, hparse, fun x hx => ?_, hdescribe,
      ⟨fun _ => ⟨d, hmem, hcode⟩, fun _ => hunknown⟩, fun _ => ⟨d, hcode, hreport⟩⟩
    rcases honly x hx with h | h
    · rw [h]
      simp [ofString]
    · rw [h]
      simp [ofString]

end Kinds

/-! ## All lines -/

/-- **Every line is accounted for once, by all readers.** Let a script be linted to the end, with
any catalog, one without commands standing for the standard catalog. Each of its lines is of exactly
one kind, and accounted for as that:

* a blank line or a comment has no statement, nothing reported, and no description;
* a line that is neither and no command line has no statement, exactly that reported, and no
  description;
* a command line has exactly one statement, and is not reported as malformed; its description is
  that of the command of the statement. There is none exactly when the command is reported as
  unknown, and then only one conflicting declaration can be reported of the line besides.

The statements come in the order of their lines. -/
theorem accounted {given : Catalog}
    (hlint : validate (given.orElse .standard) defaultMarks source = .ok ds) :
    (∀ i raw, (splitLines source)[i]? = some raw →
      (∃! kind : LineKind, kind.Of raw) ∧
      ∀ kind : LineKind, kind.Of raw →
        kind.Accounted (given.orElse .standard) source ds i raw) ∧
    (parse defaultMarks source).Pairwise fun s t => s.line < t.line := by
  refine ⟨fun i raw hraw => ⟨LineKind.exists_unique raw, fun kind hkind => ?_⟩,
    pairwise_parse defaultMarks source⟩
  cases kind with
  | skipped => exact accounted_skipped hlint hraw hkind
  | malformed => exact accounted_malformed hlint hraw hkind
  | command => exact accounted_command hlint hraw hkind

/-- A catalog of one command. -/
def speechCatalog : Catalog where
  table := [(ofString "act_speak", { name := ofString "Act_Speak", since := [] })]
  aliases := []

/-- A script with a line of each kind, the last one with a conflicting declaration. -/
def medley : Text :=
  ofString "# note\nhello\nSet_IntVar [\"n\", 1]\nSet_BoolVar [\"n\", true]"

theorem accounted_medley : ∃ ds,
    validate (speechCatalog.orElse .standard) defaultMarks medley = .ok ds ∧
    onLine ds 0 = [] ∧ (∃ d, onLine ds 1 = [d] ∧ d.code = ofString "SYNTAX_INVALID_COMMAND") ∧
    ∃ d ∈ onLine ds 3, d.code = ofString "COMMAND_UNKNOWN" := by
  obtain ⟨found, hfound⟩ : ∃ found, checkLines (speechCatalog.orElse .standard) defaultMarks
      (collectFacts defaultMarks medley) 0 (splitLines medley) = .ok found := ⟨_, rfl⟩
  have hlint : validate (speechCatalog.orElse .standard) defaultMarks medley =
      .ok (sortDiagnostics (found ++ conflictDiagnostics (collectFacts defaultMarks medley))) := by
    simp only [validate, hfound]
    rfl
  have hall := (accounted hlint).1
  obtain ⟨-, hnote, -⟩ := (hall 0 (ofString "# note") rfl).2 .skipped rfl
  obtain ⟨-, hhello, -⟩ := (hall 1 (ofString "hello") rfl).2 .malformed ⟨rfl, rfl⟩
  obtain ⟨s, hs, -, -, -, hunknown, -⟩ :=
    (hall 3 (ofString "Set_BoolVar [\"n\", true]") rfl).2 .command rfl
  have hcommand : s.command = ofString "Set_BoolVar" := by
    have hread : (Statement.ofLine defaultMarks ((3 : Nat) : Int)
        (ofString "Set_BoolVar [\"n\", true]")).map Statement.command =
          some (ofString "Set_BoolVar") := by rfl
    rw [hs] at hread
    exact Option.some.inj hread
  have hnone : (speechCatalog.orElse .standard).describe (ofString "Set_BoolVar") = none := by rfl
  exact ⟨_, hlint, hnote, hhello, hunknown.mp (by rw [hcommand, hnone])⟩

/-- A catalog without commands. -/
def bareCatalog : Catalog where
  table := []
  aliases := []

/-- A script of one line that speaks. -/
def hail : Text := ofString "Act_Speak [\"hi\"]"

/-- **A catalog without commands is not looked up in.** The readers take the standard one for it,
and describe a command that the given one does not have. -/
theorem commandAt_borrowed : ¬ ∀ (given : Catalog) (source : Text) (ds : List Diagnostic) (i : Nat)
    (raw : Text) (s : Statement),
    validate (given.orElse .standard) defaultMarks source = .ok ds →
      (splitLines source)[i]? = some raw → Statement.ofLine defaultMarks i raw = some s →
        (given.orElse .standard).commandAt source i = given.describe s.command := by
  intro h
  have hlint : validate (bareCatalog.orElse .standard) defaultMarks hail = .ok [] :=
    validate_eq_nil rfl rfl
  let s : Statement := {
    command := ofString "Act_Speak", params := [Param.ofToken (ofString "\"hi\"")], raw := hail }
  have hread : Statement.ofLine defaultMarks ((0 : Nat) : Int) hail = some s := by rfl
  have hbare := h bareCatalog hail [] 0 hail s hlint rfl hread
  have hborrowed : ((bareCatalog.orElse .standard).commandAt hail ((0 : Nat) : Int)).isSome := by
    rfl
  rw [hbare] at hborrowed
  cases hborrowed

end Dialogue
