import Dialogue.Proofs.Script.Cuts
import Mathlib.Order.Bounds.Basic

/-!
# Where a search ends

A search goes along a text with two flags, and what they stand for can be said of the text alone. At
each place the one is the parity of the backslashes that stand right before it, the other the parity
of the double quotes before it that are not escaped. So the search ends at the first place where the
character counts, and comes to nothing only when there is none.

* `Mode.after_take`: the two flags at a place, said by what stands before it;
* `findTopLevel_eq_some_iff`: the place that is found is the first one;
* **`findTopLevel_isLeast`**: what a search finds, and when it finds nothing;
* `findTopLevel_steering`: the two characters that steer the scan are never found, although they
  may count.
-/

namespace Dialogue.Script

open Text Mode

variable {c : Char} {t : Text} {i j : Nat}

/-- **The flags of the scan at a place** are two parities of the text before it. -/
theorem Mode.after_take (t : Text) (i : Nat) :
    start.after (t.take i) = ⟨quotesIn (t.take i) % 2 = 1, EndsOdd (t.take i)⟩ := by
  have hquotes := inQuotes_after (t.take i)
  have hescaped := escaped_after (m := start) rfl (t.take i)
  generalize start.after (t.take i) = m at hquotes hescaped
  exact congrArg₂ Mode.mk (Bool.eq_iff_iff.mpr (hquotes.trans decide_eq_true_iff.symm))
    (Bool.eq_iff_iff.mpr (hescaped.trans decide_eq_true_iff.symm))

/-- The place that is found is one where the character counts, and there is none before it. -/
theorem countsAt_of_findTopLevel (hslash : c ≠ '\\') (hquote : c ≠ '"')
    (hfind : findTopLevel t c = some i) : CountsAt c t i ∧ ∀ j < i, ¬ CountsAt c t j := by
  obtain ⟨a, b, rfl, rfl, hnone, hafter⟩ := findFrom_eq_some hfind
  refine ⟨countsAt_iff.mpr ⟨by simp, by rw [List.take_left' rfl, hafter]⟩, fun j hj => ?_⟩
  rw [countsAt_append_left hj]
  exact (findTopLevel_eq_none_iff hslash hquote).mp hnone j

/-- **The place that is found is the first one where the character counts.** -/
theorem findTopLevel_eq_some_iff (hslash : c ≠ '\\') (hquote : c ≠ '"') :
    findTopLevel t c = some i ↔ CountsAt c t i ∧ ∀ j < i, ¬ CountsAt c t j := by
  refine ⟨countsAt_of_findTopLevel hslash hquote, fun ⟨hi, hbefore⟩ => ?_⟩
  cases hfind : findTopLevel t c with
  | none => exact absurd hi ((findTopLevel_eq_none_iff hslash hquote).mp hfind i)
  | some j =>
    obtain ⟨hj, hfirst⟩ := countsAt_of_findTopLevel hslash hquote hfind
    rcases Nat.lt_trichotomy i j with hlt | rfl | hgt
    · exact absurd hi (hfirst i hlt)
    · rfl
    · exact absurd hj (hbefore j hgt)

/-- The double quote and the backslash steer the scan and are never found. -/
theorem findTopLevel_steering (hsteers : c = '\\' ∨ c = '"') (t : Text) :
    findTopLevel t c = none := by
  suffices hall : ∀ m, findFrom c m t = none from hall start
  induction t with
  | nil => exact fun _ => rfl
  | cons d r ih =>
    intro m
    have hnot : ¬ (m.isTop = true ∧ d ≠ '\\' ∧ d ≠ '"' ∧ d = c) := by
      rintro ⟨-, hslash, hquote, rfl⟩
      exact hsteers.elim hslash hquote
    rw [findFrom, if_neg hnot, ih]
    rfl

/-- **A search finds the least place that counts.** For every text and every character but the two
that steer the scan: what is found is the least place where the character stands, is not escaped by
an odd number of backslashes right before it, and has an even number of double quotes before it that
are not escaped. Nothing is found exactly when there is no such place. -/
theorem findTopLevel_isLeast (hslash : c ≠ '\\') (hquote : c ≠ '"') (t : Text) :
    (∀ i, findTopLevel t c = some i ↔
      IsLeast {j | t[j]? = some c ∧ ¬ EndsOdd (t.take j) ∧ quotesIn (t.take j) % 2 = 0} i) ∧
    (findTopLevel t c = none ↔
      ¬ ∃ j, t[j]? = some c ∧ ¬ EndsOdd (t.take j) ∧ quotesIn (t.take j) % 2 = 0) := by
  refine ⟨fun i => ?_, ?_⟩
  · rw [findTopLevel_eq_some_iff hslash hquote]
    refine and_congr Iff.rfl ⟨fun hbefore j hj => ?_, fun hleast j hlt hj => ?_⟩
    · exact Nat.le_of_not_lt fun hlt => hbefore j hlt hj
    · exact Nat.not_lt.mpr (hleast hj) hlt
  · rw [findTopLevel_eq_none_iff hslash hquote, not_exists]
    rfl

/-- Equals signs inside a string, after an escaped quote in it, escaped outside it, and behind two
backslashes, where the sign counts. -/
def signs : Text := ofString "\"a=\\\"=\\\\\"\\\\\\=b\\\\=c"

theorem findTopLevel_isLeast_signs :
    IsLeast {j | signs[j]? = some '=' ∧ ¬ EndsOdd (signs.take j) ∧
      quotesIn (signs.take j) % 2 = 0} 16 ∧
    ¬ ∃ j, (signs.take 16)[j]? = some '=' ∧ ¬ EndsOdd ((signs.take 16).take j) ∧
      quotesIn ((signs.take 16).take j) % 2 = 0 := by
  have hslash : '=' ≠ '\\' := by decide
  have hquote : '=' ≠ '"' := by decide
  exact ⟨((findTopLevel_isLeast hslash hquote signs).1 16).mp (by decide),
    (findTopLevel_isLeast hslash hquote (signs.take 16)).2.mp (by decide)⟩

end Dialogue.Script
