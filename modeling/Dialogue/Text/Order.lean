import Dialogue.Text.Basic

/-!
# The order of texts

Texts are ordered by their first different characters, and characters by their code points; a text
comes before its continuations.

* `noLater`: whether a text comes no later than another.

`noLater_total`, `noLater_trans` and `noLater_antisymm` say that this is a total order.
-/

namespace Dialogue.Text

/-- Whether a text comes no later than another. -/
def noLater : Text → Text → Bool
  | [], _ => true
  | _ :: _, [] => false
  | c :: r, d :: s => if c = d then noLater r s else decide (c.toNat < d.toNat)

theorem toNat_ne {c d : Char} (h : c ≠ d) : c.toNat ≠ d.toNat := fun e =>
  h (Char.ext (UInt32.toNat_inj.1 e))

theorem noLater_total (s t : Text) : noLater s t = true ∨ noLater t s = true := by
  fun_induction noLater s t with
  | case1 => exact .inl rfl
  | case2 => exact .inr rfl
  | case3 _ _ _ ih => simpa [noLater] using ih
  | case4 c r d s h =>
    have := toNat_ne h
    have h' : ¬ d = c := fun e => h e.symm
    simp only [noLater, h', if_false, decide_eq_true_eq]
    omega

theorem noLater_trans {s t u : Text} (h : noLater s t = true) (h' : noLater t u = true) :
    noLater s u = true := by
  induction s generalizing t u with
  | nil => simp [noLater]
  | cons c r ih =>
    rcases t with _ | ⟨d, s⟩
    · simp [noLater] at h
    rcases u with _ | ⟨e, v⟩
    · simp [noLater] at h'
    simp only [noLater] at *
    by_cases hcd : c = d
    · subst hcd
      by_cases hce : c = e
      · simp_all
        exact ih h h'
      · simp_all
    · by_cases hde : d = e
      · subst hde
        simp_all
      · have hce : ¬ c = e := by
          rintro rfl
          simp only [hcd, hde, if_false, decide_eq_true_eq] at h h'
          omega
        simp only [hcd, hde, hce, if_false, decide_eq_true_eq] at *
        omega

theorem noLater_antisymm {s t : Text} (h : noLater s t = true) (h' : noLater t s = true) :
    s = t := by
  fun_induction noLater s t with
  | case1 t => cases t <;> simp_all [noLater]
  | case2 => simp at h
  | case3 c r s ih => simp_all [noLater]
  | case4 c r d s hcd =>
    have hdc : ¬ d = c := fun e => hcd e.symm
    simp only [noLater, hdc, if_false, decide_eq_true_eq] at h h'
    omega

end Dialogue.Text
