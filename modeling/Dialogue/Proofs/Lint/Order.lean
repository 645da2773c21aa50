import Dialogue.Lint.Diagnostic
import Mathlib.Tactic.Common

/-!
# The order of reports

Diagnostics are ordered by line, then by start column, then by code. That is a total order up to
diagnostics that agree in all three, so that sorting puts what is reported in this order, and what
is in this order already is not shuffled.

* `noLater_iff_lex`: codes are in the lexicographic order of their characters' code points;
* `Diagnostic.le_iff`, `Diagnostic.le_total`, `Diagnostic.le_trans`: the order;
* `pairwise_sortDiagnostics`: what is sorted is in order;
* **`filter_sortDiagnostics`**: what is picked out after the sorting is what is picked out before,
  if that is in order.
-/

namespace Dialogue

open Text

variable {a b c : Diagnostic} {ds : List Diagnostic}

/-- A text comes no later than itself and than what follows it in the lexicographic order by code
point. -/
theorem noLater_iff_lex {s t : Text} :
    noLater s t = true ↔ s = t ∨ List.Lex (fun c d => c.toNat < d.toNat) s t := by
  fun_induction noLater s t with
  | case1 t => cases t <;> simp
  | case2 c r => simp
  | case3 c r s ih => simp [ih, List.cons_lex_cons_iff]
  | case4 c r d s h => simp [h, List.cons_lex_cons_iff]

namespace Diagnostic

theorem le_iff : a.le b = true ↔ a.range.line < b.range.line ∨ a.range.line = b.range.line ∧
    (a.range.start < b.range.start ∨
      a.range.start = b.range.start ∧ noLater a.code b.code = true) := by
  unfold le
  split_ifs with hline hstart
  · rw [decide_eq_true_eq]
    exact ⟨.inl, fun h => h.resolve_right fun hsame => hline hsame.1⟩
  · rw [decide_eq_true_eq]
    constructor
    · exact fun h => .inr ⟨not_not.mp hline, .inl h⟩
    · rintro (h | ⟨-, h | ⟨hsame, -⟩⟩)
      · exact absurd (not_not.mp hline) (Int.ne_of_lt h)
      · exact h
      · exact absurd hsame hstart
  · constructor
    · exact fun h => .inr ⟨not_not.mp hline, .inr ⟨not_not.mp hstart, h⟩⟩
    · rintro (h | ⟨-, h | ⟨-, h⟩⟩)
      · exact absurd (not_not.mp hline) (Int.ne_of_lt h)
      · exact absurd (not_not.mp hstart) (Int.ne_of_lt h)
      · exact h

theorem le_of_line_lt (h : a.range.line < b.range.line) : a.le b = true := le_iff.mpr (.inl h)

theorem le_total (a b : Diagnostic) : (a.le b || b.le a) = true := by
  rw [Bool.or_eq_true, le_iff, le_iff]
  rcases noLater_total a.code b.code with hcode | hcode
  · simp only [hcode, and_true]
    omega
  · simp only [hcode, and_true]
    omega

theorem le_trans (a b c : Diagnostic) (hab : a.le b = true) (hbc : b.le c = true) :
    a.le c = true := by
  rw [le_iff] at *
  rcases hab with hab | ⟨hline, hab⟩
  · exact .inl (by omega)
  rcases hbc with hbc | ⟨hline', hbc⟩
  · exact .inl (by omega)
  refine .inr ⟨hline.trans hline', ?_⟩
  rcases hab with hab | ⟨hstart, hab⟩
  · exact .inl (by omega)
  rcases hbc with hbc | ⟨hstart', hbc⟩
  · exact .inl (by omega)
  exact .inr ⟨hstart.trans hstart', noLater_trans hab hbc⟩

end Diagnostic

/-- What is sorted is in order. -/
theorem pairwise_sortDiagnostics (ds : List Diagnostic) :
    (sortDiagnostics ds).Pairwise fun a b => a.le b = true :=
  List.pairwise_mergeSort Diagnostic.le_trans Diagnostic.le_total ds

/-- **What is picked out of sorted diagnostics is what is picked out before the sorting**, if that
is in order already. -/
theorem filter_sortDiagnostics (p : Diagnostic → Bool)
    (h : (ds.filter p).Pairwise fun a b => a.le b = true) :
    (sortDiagnostics ds).filter p = ds.filter p := by
  have hsub : (ds.filter p).Sublist (sortDiagnostics ds) :=
    List.sublist_mergeSort Diagnostic.le_trans Diagnostic.le_total h List.filter_sublist
  have hpicked : (ds.filter p).Sublist ((sortDiagnostics ds).filter p) := by
    have hfilter := hsub.filter p
    rwa [List.filter_filter, funext fun d => Bool.and_self (p d)] at hfilter
  have hperm : ((sortDiagnostics ds).filter p).Perm (ds.filter p) :=
    (List.mergeSort_perm ds Diagnostic.le).filter p
  exact (hpicked.eq_of_length hperm.length_eq.symm).symm

end Dialogue
