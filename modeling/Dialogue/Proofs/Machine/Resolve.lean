import Dialogue.Machine.Resolve
import Dialogue.Proofs.Script.Command

/-!
# What the machine reads in a token

A token between double quotes stands for its body, and a token that is an identifier behind a dollar
sign for a variable. Neither begins or ends with a blank unless the body does, so that resolving them
takes nothing away.

* `quotedBody?_eq_some_iff`, `referenceName?_eq_some_iff`: the two forms;
* **`resolve_quoted`**, **`resolve_reference`**: what the machine makes of them.
-/

namespace Dialogue

open Text

/-! ## Forms of tokens -/

namespace Script

theorem quotedBody?_eq_some_iff {t body : Text} :
    quotedBody? t = some body ↔ t = '"' :: (body ++ ['"']) := by
  constructor
  · intro h
    cases t with
    | nil => cases h
    | cons c r =>
      rw [quotedBody?] at h
      split_ifs at h with hquotes
      obtain rfl := Option.some.inj h
      rw [hquotes.1, List.dropLast_append_getLast? _ hquotes.2]
  · rintro rfl
    simp [quotedBody?]

theorem referenceName?_eq_some_iff {t name : Text} :
    referenceName? t = some name ↔ t = '$' :: name ∧ isIdentifier name = true := by
  constructor
  · intro h
    cases t with
    | nil => cases h
    | cons c r =>
      rw [referenceName?] at h
      split_ifs at h with href
      obtain rfl := Option.some.inj h
      exact ⟨by rw [href.1], href.2⟩
  · rintro ⟨rfl, hname⟩
    simp [referenceName?, hname]

theorem trimmed_quoted (body : Text) : Trimmed ('"' :: (body ++ ['"'])) where
  head c h := by
    cases h
    decide
  last c h := by
    rw [← List.cons_append, List.getLast?_concat] at h
    cases h
    decide

theorem trimmed_reference {name : Text} (h : isIdentifier name = true) : Trimmed ('$' :: name) :=
  trimmed_of_forall (List.forall_mem_cons.mpr
    ⟨by decide, fun c hc => isBlank_of_isNameChar (isNameChar_of_mem h c hc)⟩)

/-- Without backslashes there is nothing to unescape. -/
theorem unescape_of_not_mem {t : Text} (h : '\\' ∉ t) : unescape t = t := by
  fun_induction unescape t with
  | case1 => rfl
  | case2 => rfl
  | case3 c d r hc ih => exact absurd (hc.1 ▸ List.mem_cons_self) h
  | case4 c d r hc ih => rw [ih fun hmem => h (List.mem_cons_of_mem c hmem)]

end Script

/-! ## Resolving -/

namespace Machine

open Script

variable {vars : Table Variable} {p : Param}

/-- **A quoted token is resolved to its body.** -/
theorem resolve_quoted {body : Text} (h : quotedBody? p.raw = some body) :
    resolve vars p = .ok (unescape body) := by
  have hraw := quotedBody?_eq_some_iff.mp h
  have htrim : trim p.raw = p.raw := by rw [hraw, (trimmed_quoted body).trim_eq]
  have href : referenceName? p.raw = none := by rw [hraw]; simp [referenceName?]
  have hinter : interpolatedBody? p.raw = none := by rw [hraw]; simp [interpolatedBody?]
  simp only [resolve, Value.ofToken, htrim, href, hinter, h]
  rfl

/-- **A variable reference reads its variable.** -/
theorem resolve_reference {name : Text} (h : referenceName? p.raw = some name) :
    resolve vars p = display vars name := by
  obtain ⟨hraw, hname⟩ := referenceName?_eq_some_iff.mp h
  have htrim : trim p.raw = p.raw := by rw [hraw, (trimmed_reference hname).trim_eq]
  simp only [resolve, Value.ofToken, htrim, h]
  rfl

end Machine

end Dialogue
