import Dialogue.Proofs.Script.Command
import Dialogue.Text.Case

/-!
# Letter case of identifiers

Identifiers are ASCII, and there the full lower-case mapping does to each character what ASCII does to
it. So two texts with the same ASCII letters have the same small letters, if one of them is an
identifier; and then both are.

* `SameLetters`: the same text but for the case of ASCII letters;
* `toLower_cases`: lower-case mapping changes nothing but capitals;
* `SameLetters.isIdentifier`: both are identifiers or neither is;
* **`SameLetters.lower_eq`**: identifiers with the same letters are looked up alike.
-/

namespace Dialogue.Text

variable {a b t : Text} {c : Char}

/-- The texts are the same but for the case of ASCII letters. -/
def SameLetters (a b : Text) : Prop := a.map Char.toLower = b.map Char.toLower

instance (a b : Text) : Decidable (SameLetters a b) :=
  inferInstanceAs (Decidable (a.map Char.toLower = b.map Char.toLower))

/-! ## Capitals -/

/-- The ASCII capitals. -/
def capitals : List Char := (List.range 26).map fun i => Char.ofNat (65 + i)

/-- A character that is not a capital is left alone. -/
theorem toLower_cases (c : Char) : c.toLower = c ∨ c ∈ capitals := by
  unfold Char.toLower
  split
  · rename_i h
    have hlow : 65 ≤ c.toNat := UInt32.le_iff_toNat_le.mp h.1
    have hhigh : c.toNat ≤ 90 := UInt32.le_iff_toNat_le.mp h.2
    refine .inr (List.mem_map.mpr ⟨c.toNat - 65, List.mem_range.mpr (by omega), ?_⟩)
    rw [show 65 + (c.toNat - 65) = c.toNat by omega, Char.ofNat_toNat]
  · exact .inl rfl

/-- A class to which a capital belongs iff its small letter does is blind to case. -/
theorem toLower_of_capitals {p : Char → Bool} (h : capitals.all fun c => p c.toLower == p c)
    (c : Char) : p c.toLower = p c := by
  rcases toLower_cases c with hsmall | hcapital
  · rw [hsmall]
  · exact eq_of_beq (List.all_eq_true.mp h c hcapital)

theorem isNameChar_toLower (c : Char) : isNameChar c.toLower = isNameChar c :=
  toLower_of_capitals (by decide) c

theorem isNameStart_toLower (c : Char) : isNameStart c.toLower = isNameStart c :=
  toLower_of_capitals (by decide) c

/-! ## Identifiers -/

theorem isIdentifier_map_toLower (t : Text) : isIdentifier (t.map Char.toLower) = isIdentifier t := by
  cases t with
  | nil => rfl
  | cons c r =>
    rw [List.map_cons, isIdentifier, isIdentifier, isNameStart_toLower, List.all_map]
    congr 2
    funext d
    exact isNameChar_toLower d

theorem SameLetters.isIdentifier (h : SameLetters a b) : isIdentifier b = isIdentifier a := by
  rw [← isIdentifier_map_toLower b, ← h, isIdentifier_map_toLower]

theorem SameLetters.length_eq (h : SameLetters a b) : b.length = a.length := by
  have hlength := congrArg List.length h
  rw [List.length_map, List.length_map] at hlength
  exact hlength.symm

/-- The small letters of ASCII characters do not depend on their neighbours. -/
theorem lowerAfter_of_ascii (before : Text) (h : ∀ c ∈ t, c.toNat < 128) :
    lowerAfter before t = t.map Char.toLower := by
  induction t generalizing before with
  | nil => rfl
  | cons c r ih =>
    obtain ⟨hc, hr⟩ := List.forall_mem_cons.mp h
    have hsigma : c ≠ 'Σ' := by
      rintro rfl
      exact absurd hc (by decide)
    rw [lowerAfter, if_neg hsigma, lowerChar, if_pos hc, ih _ hr]
    rfl

theorem lower_of_isIdentifier (h : isIdentifier t = true) : lower t = t.map Char.toLower :=
  lowerAfter_of_ascii [] fun c hc => (range_of_isNameChar (isNameChar_of_mem h c hc)).2

/-- **Identifiers with the same letters have the same small letters.** -/
theorem SameLetters.lower_eq (h : SameLetters a b) (ha : Text.isIdentifier a = true) :
    lower b = lower a := by
  rw [lower_of_isIdentifier ha, lower_of_isIdentifier (h.isIdentifier.trans ha)]
  exact h.symm

end Dialogue.Text
