import Dialogue.Text.Blank
import Mathlib.Data.List.DropRight

/-!
# Trimming

A text is blanks, its trimmed middle, and blanks again, and the middle neither begins nor ends with a
blank. All that is said of trimming elsewhere follows from these two facts.

* `trimLeft_split`, `trimRight_split`: what trimming takes away are blanks;
* **`trim_trimmed`**, `Trimmed.trim_eq`: trimming gives a trimmed text and leaves one alone;
* `trim_ne_of_longer`: trimming does not take away a character that is not blank.
-/

namespace Dialogue.Text

/-- Blank characters only. -/
def Blanks (t : Text) : Prop := ∀ c ∈ t, isBlank c = true

instance (t : Text) : Decidable (Blanks t) :=
  decidable_of_iff (t.all isBlank = true) List.all_eq_true

/-- The text neither begins nor ends with a blank. -/
structure Trimmed (t : Text) : Prop where
  head : ∀ c, t.head? = some c → isBlank c = false
  last : ∀ c, t.getLast? = some c → isBlank c = false

theorem trimLeft_split (t : Text) : ∃ b, Blanks b ∧ t = b ++ trimLeft t :=
  ⟨t.takeWhile isBlank, fun _ hc => List.mem_takeWhile_imp hc,
    (List.takeWhile_append_dropWhile).symm⟩

theorem trimRight_split (t : Text) : ∃ b, Blanks b ∧ t = trimRight t ++ b :=
  ⟨t.rtakeWhile isBlank, fun _ hc => List.mem_rtakeWhile_imp hc,
    List.rdropWhile_append_rtakeWhile.symm⟩

/-- A text is its trimmed middle between blanks. -/
theorem trim_split (t : Text) : ∃ b e, Blanks b ∧ Blanks e ∧ t = b ++ (trim t ++ e) := by
  obtain ⟨b, hb, ht⟩ := trimLeft_split t
  obtain ⟨e, he, hmid⟩ := trimRight_split (trimLeft t)
  exact ⟨b, e, hb, he, by rw [trim, ← hmid, ← ht]⟩

theorem mem_of_mem_trim {t : Text} {c : Char} (h : c ∈ trim t) : c ∈ t := by
  obtain ⟨b, e, -, -, ht⟩ := trim_split t
  rw [ht]
  exact List.mem_append_right b (List.mem_append_left e h)

theorem trimmed_of_forall {t : Text} (h : ∀ c ∈ t, isBlank c = false) : Trimmed t :=
  ⟨fun c hc => h c (List.mem_of_mem_head? hc), fun c hc => h c (List.mem_of_mem_getLast? hc)⟩

theorem isBlank_head_trimLeft {t : Text} {c : Char} (h : (trimLeft t).head? = some c) :
    isBlank c = false := by
  have hnot := List.head?_dropWhile_not isBlank t
  rw [show t.dropWhile isBlank = trimLeft t from rfl, h] at hnot
  simpa using hnot

/-- **A trimmed text neither begins nor ends with a blank.** -/
theorem trim_trimmed (t : Text) : Trimmed (trim t) where
  head c h := by
    obtain ⟨e, -, hsplit⟩ := trimRight_split (trimLeft t)
    refine isBlank_head_trimLeft (t := t) ?_
    rw [hsplit, List.head?_append, show trimRight (trimLeft t) = trim t from rfl, h]
    rfl
  last c h := by
    have hne : trim t ≠ [] := fun hnil => by simp [hnil] at h
    have hlast := List.rdropWhile_last_not isBlank (trimLeft t) hne
    rw [List.getLast?_eq_getLast_of_ne_nil hne] at h
    obtain rfl := Option.some.inj h
    exact eq_false_of_ne_true hlast

theorem trimLeft_eq {t : Text} (h : ∀ c, t.head? = some c → isBlank c = false) :
    trimLeft t = t := by
  cases t with
  | nil => rfl
  | cons c r => simp [trimLeft, h c rfl]

/-- A trimmed text is left alone. -/
theorem Trimmed.trim_eq {t : Text} (h : Trimmed t) : trim t = t := by
  rw [trim, trimLeft_eq h.head]
  refine List.rdropWhile_eq_self_iff.mpr fun hne => ?_
  simp [h.last _ (List.getLast?_eq_getLast_of_ne_nil hne)]

/-- Trimming does not go beyond a last character that is not blank. -/
theorem trimRight_append {t : Text} (h : ∀ c, t.getLast? = some c → isBlank c = false) (u : Text) :
    trimRight (t ++ u) = t ++ trimRight u := by
  have hlast : t.reverse.dropWhile isBlank = t.reverse := by
    refine trimLeft_eq fun c hc => h c ?_
    rwa [List.head?_reverse] at hc
  unfold trimRight
  rw [List.reverse_append, List.dropWhile_append, hlast]
  split
  · rename_i hblanks
    rw [List.isEmpty_iff.mp hblanks, List.reverse_reverse, List.reverse_nil, List.append_nil]
  · rw [List.reverse_append, List.reverse_reverse]

theorem trim_trim (t : Text) : trim (trim t) = trim t := (trim_trimmed t).trim_eq

theorem trim_cons_blank {c : Char} (hc : isBlank c = true) (t : Text) : trim (c :: t) = trim t := by
  simp [trim, trimLeft, hc]

/-- Trimming keeps every character that is not blank. -/
theorem countP_trim (t : Text) :
    (trim t).countP (fun c => !isBlank c) = t.countP (fun c => !isBlank c) := by
  obtain ⟨b, e, hb, he, ht⟩ := trim_split t
  have hnone : ∀ {u : Text}, Blanks u → u.countP (fun c => !isBlank c) = 0 := fun hu =>
    List.countP_eq_zero.mpr fun c hc => by simp [hu c hc]
  conv_rhs => rw [ht, List.countP_append, List.countP_append, hnone hb, hnone he]
  omega

/-- No text is left of a longer one that goes on with a character that is not blank. -/
theorem trim_ne_of_longer {c : Char} (hc : isBlank c = false) (t u : Text) :
    trim (t ++ c :: u) ≠ trim t := by
  intro h
  have hcount := congrArg (List.countP fun c => !isBlank c) h
  rw [countP_trim, countP_trim, List.countP_append, List.countP_cons_of_pos (by simp [hc])] at hcount
  omega

/-- Trimmed texts on either side of a character that is not blank make a trimmed text. -/
theorem Trimmed.append_cons {t u : Text} (ht : Trimmed t) (hu : Trimmed u) {c : Char}
    (hc : isBlank c = false) : Trimmed (t ++ c :: u) where
  head d h := by
    rw [List.head?_append] at h
    cases hhead : t.head? with
    | none =>
      rw [hhead] at h
      obtain rfl := Option.some.inj h
      exact hc
    | some a =>
      rw [hhead] at h
      obtain rfl := Option.some.inj h
      exact ht.head _ hhead
  last d h := by
    rw [List.getLast?_append, List.getLast?_cons] at h
    cases hlast : u.getLast? with
    | none =>
      simp only [hlast, Option.getD_none, Option.some_or, Option.some.injEq] at h
      exact h ▸ hc
    | some a =>
      simp only [hlast, Option.getD_some, Option.some_or, Option.some.injEq] at h
      exact h ▸ hu.last a hlast

end Dialogue.Text
