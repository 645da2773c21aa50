import Dialogue.Proofs.Lint.FirstReading
import Dialogue.Proofs.Script.Cuts

/-!
# Where reports stand

A report names a line and two columns of it. The columns are computed from the lengths of the line
before and after trimming, by the second reading for the problems and by the first one for the
conflicts. An editor underlines what is between them, and that is the text of the line without the
blanks around it, whatever blanks they are.

* `Spans`: a report stands on a line of the script and spans its text;
* `spans_of_range_eq`: the span of a line with a text is one, and only such lines are reported on
  (`spans_of_mem_remarks`, `spans_of_mem_redeclarations`);
* **`validate_spans`**: where the reports stand, in which order, and that they are the problems of
  all lines and all conflicts, each once.
-/

namespace Dialogue.Lint

open Text Script

variable {catalog : Catalog} {marks : List Text} {facts : Facts} {source raw : Text} {i : Nat}
  {d : Diagnostic} {ds : List Diagnostic}

/-- The report stands on a line of the script and spans the text of that line, of which there is
some, without the blanks around it. -/
def Spans (source : Text) (d : Diagnostic) : Prop :=
  ∃ (i start stop : Nat) (raw : Text), d.range = { line := i, start := start, stop := stop } ∧
    (splitLines source)[i]? = some raw ∧ start < stop ∧ stop ≤ raw.length ∧
    slice raw (start, stop) = trim raw

theorem spans_of_range_eq (hraw : (splitLines source)[i]? = some raw) (htext : trim raw ≠ [])
    (hrange : d.range = lineRange i raw) : Spans source d := by
  obtain ⟨before, after, -, -, hsplit, hspan⟩ := lineRange_spec i raw
  refine ⟨i, before.length, before.length + (trim raw).length, raw, ?_, hraw, ?_, ?_, ?_⟩
  · rw [hrange, hspan]
    simp
  · exact Nat.lt_add_of_pos_right (List.length_pos_iff.mpr htext)
  · have hlength := congrArg List.length hsplit
    rw [List.length_append, List.length_append] at hlength
    omega
  · calc slice raw (before.length, before.length + (trim raw).length)
        = slice (before ++ (trim raw ++ after)) (before.length, before.length + (trim raw).length) :=
          by rw [← hsplit]
      _ = slice (trim raw ++ after) (0, (trim raw).length) := slice_append_right before _ (0, _)
      _ = trim raw := by rw [slice, List.take_left' rfl, List.drop_zero]

/-- A blank line is passed over. -/
theorem trim_ne_nil_of_not_isSkippable (hskip : isSkippable marks (trim raw) = false) :
    trim raw ≠ [] := by
  intro hnil
  rw [isSkippable, hnil] at hskip
  cases hskip

theorem spans_of_mem_remarks (hraw : (splitLines source)[i]? = some raw)
    (hd : d ∈ remarks catalog marks facts i raw) : Spans source d := by
  obtain ⟨x, hx, rfl⟩ := List.mem_map.mp hd
  have hskip : isSkippable marks (trim raw) = false := by
    by_contra hskip
    rw [lineProblems_of_isSkippable (eq_true_of_ne_false hskip)] at hx
    cases hx
  exact spans_of_range_eq hraw (trim_ne_nil_of_not_isSkippable hskip) rfl

theorem spans_of_mem_redeclarations (hraw : (splitLines source)[i]? = some raw)
    (hd : d ∈ redeclarations marks facts i raw) : Spans source d := by
  obtain ⟨-, hrange, hline⟩ := of_mem_redeclarations hd
  obtain ⟨parts, hparts⟩ := Option.isSome_iff_exists.mp hline
  exact spans_of_range_eq hraw
    (trim_ne_nil_of_not_isSkippable (commandLine?_eq_some_iff.mp hparts).1) hrange

/-- The first report comes no later than the second: by line, then by start column, then by code,
codes in the lexicographic order by code point. -/
def NoLater (a b : Diagnostic) : Prop :=
  a.range.line < b.range.line ∨ a.range.line = b.range.line ∧
    (a.range.start < b.range.start ∨ a.range.start = b.range.start ∧
      (a.code = b.code ∨ List.Lex (fun c d => c.toNat < d.toNat) a.code b.code))

/-- **Reports stand where the text is, in order, and none is lost or repeated.** Whenever the linter
returns, every report stands on a line of the script and spans the text of that line between the
blanks around it. The reports come in the order of lines, start columns and codes. They are the
problems of all lines, every one of which has been checked, and one report for each conflict. -/
theorem validate_spans (hlint : validate catalog marks source = .ok ds) :
    (∀ d ∈ ds, Spans source d) ∧ ds.Pairwise NoLater ∧
    (∀ raw ∈ splitLines source, checkLine catalog marks (collectFacts marks source) raw =
      .ok (lineProblems catalog marks (collectFacts marks source) raw)) ∧
    ∃ conflicts, List.Forall₂ (Reports (collectFacts marks source))
        (collectFacts marks source).conflicts conflicts ∧
      ds.Perm (gather (remarks catalog marks (collectFacts marks source)) 0 (splitLines source) ++
        conflicts) := by
  obtain ⟨hall, hsorted⟩ := validate_eq_sort hlint
  have hperm : ds.Perm (gather (remarks catalog marks (collectFacts marks source)) 0
      (splitLines source) ++ conflictDiagnostics (collectFacts marks source)) := by
    rw [hsorted]
    exact List.mergeSort_perm _ Diagnostic.le
  have hreports := reports_of_validate hlint
  rw [redeclared_validate hlint] at hreports
  refine ⟨fun d hd => ?_, ?_, hall, _, hreports, hperm⟩
  · rw [conflictDiagnostics_eq_gather] at hperm
    rcases List.mem_append.mp (hperm.mem_iff.mp hd) with hd | hd
    · obtain ⟨i, raw, hraw, hd⟩ := mem_gather_iff.mp hd
      rw [Nat.zero_add] at hd
      exact spans_of_mem_remarks hraw hd
    · obtain ⟨i, raw, hraw, hd⟩ := mem_gather_iff.mp hd
      rw [Nat.zero_add] at hd
      exact spans_of_mem_redeclarations hraw hd
  · rw [hsorted]
    refine (pairwise_sortDiagnostics _).imp fun h => ?_
    rw [Diagnostic.le_iff, noLater_iff_lex] at h
    exact h

/-- A script with wide blanks and stray carriage returns around its lines, a conflict and a line that
is no command. -/
def ragged : Text :=
  ofString ("\u00a0\u2003Set_IntVar [\"n\", 1] \r\r\n" ++
    "\u3000Set_BoolVar [\"n\", true]\u2028\n\tAct_Speak [$m] \x0c\nno command\r")

theorem validate_spans_ragged : ∃ ds, validate .standard defaultMarks ragged = .ok ds ∧
    ds.length = 3 ∧ (∀ d ∈ ds, Spans ragged d) ∧ ds.Pairwise NoLater := by
  have hlint : validate .standard defaultMarks ragged = .ok _ := validate_eq_ok (by rfl)
  obtain ⟨hspans, hordered, -, -, -, hperm⟩ := validate_spans hlint
  exact ⟨_, hlint, by rw [sortDiagnostics, List.length_mergeSort]; decide +kernel, hspans, hordered⟩

end Dialogue.Lint
