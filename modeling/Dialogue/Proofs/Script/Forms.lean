import Dialogue.Proofs.Interpolation
import Dialogue.Proofs.Script.Scan
import Dialogue.Proofs.Text.Numeral

/-!
# What tokens are written for

A token is a reference, an interpolated string, a literal, or a bare text. Which of them it is does
not depend on the order in which they are tried: the first character tells references and the two
kinds of string from each other and from all else, and no integer is a truth value.

* `not_mem_of_isInteger`, `not_mem_of_isBoolWord`, `not_mem_of_reference`: characters that none of
  these has in it;
* `Denotes`: a literal with the value that it stands for;
* `WrittenFor`: a token with what it is written for. **`ofToken_eq_ok_iff`** says that the machine
  reads trimmed tokens in no other way.
-/

namespace Dialogue

open Text

namespace Script

variable {t : Text} {c : Char}

/-! ## Characters of tokens -/

theorem splitNamed_of_not_mem (h : '=' ∉ t) : splitNamed t = none := by
  rw [splitNamed, findTopLevel, findFrom_eq_none_of_not_mem h]
  rfl

theorem not_mem_of_isDigits (h : isDigits t = true) (hc : isDigit c = false) : c ∉ t := by
  intro hmem
  rw [(isDigits_iff.mp h).2 c hmem] at hc
  cases hc

theorem not_mem_of_isInteger (h : isInteger t = true) (hc : isDigit c = false)
    (hminus : c ≠ '-') : c ∉ t := by
  rcases isInteger_iff.mp h with hdigits | ⟨digits, rfl, hdigits⟩
  · exact not_mem_of_isDigits hdigits hc
  · have hnot : c ∉ digits := not_mem_of_isDigits hdigits hc
    simpa [hminus] using hnot

/-- Every character of what spells a word stands for a letter of it. -/
theorem exists_letter_of_spells {word : Text} (h : spells word t = true) (hc : c ∈ t) :
    ∃ letter ∈ word, spellsLetter letter c = true := by
  induction word generalizing t with
  | nil =>
    cases t with
    | nil => cases hc
    | cons d t => cases h
  | cons letter word ih =>
    cases t with
    | nil => cases h
    | cons d t =>
      obtain ⟨hletter, hrest⟩ := Bool.and_eq_true_iff.mp h
      rcases List.mem_cons.mp hc with rfl | hc
      · exact ⟨letter, List.mem_cons_self, hletter⟩
      · obtain ⟨later, hlater, hspells⟩ := ih hrest hc
        exact ⟨later, List.mem_cons_of_mem letter hlater, hspells⟩

theorem exists_letter_of_isBoolWord (h : isBoolWord t = true) (hc : c ∈ t) :
    ∃ letter ∈ ofString "truefalse", spellsLetter letter c = true := by
  have hword : ∀ {word : Text}, word ⊆ ofString "truefalse" → spells word t = true →
      ∃ letter ∈ ofString "truefalse", spellsLetter letter c = true := by
    intro word hsubset hspells
    obtain ⟨letter, hletter, hletter'⟩ := exists_letter_of_spells hspells hc
    exact ⟨letter, hsubset hletter, hletter'⟩
  rcases Bool.or_eq_true_iff.mp h with h | h
  · exact hword (by decide) h
  · exact hword (by decide) h

theorem not_mem_of_isBoolWord (h : isBoolWord t = true)
    (hc : (ofString "truefalse").any (spellsLetter · c) = false) : c ∉ t := by
  intro hmem
  obtain ⟨letter, hletter, hspells⟩ := exists_letter_of_isBoolWord h hmem
  exact List.any_eq_false.mp hc letter hletter hspells

theorem not_mem_of_reference {name : Text} (h : referenceName? t = some name)
    (hc : isNameChar c = false) (hdollar : c ≠ '$') : c ∉ t := by
  obtain ⟨rfl, hname⟩ := referenceName?_eq_some_iff.mp h
  have hnot : c ∉ name := not_mem_of_isIdentifier hname hc
  simpa [hdollar] using hnot

/-- A digit is in no case but its own. -/
theorem toLower_of_isDigit (h : isDigit c = true) : c.toLower = c := by
  have hupper : ¬ (65 ≤ c.toNat ∧ c.toNat ≤ 90) := by
    intro hrange
    rw [isDigit, digitValue?, if_pos (by omega), if_neg (by omega)] at h
    cases h
  exact dif_neg hupper

theorem spellsLetter_of_isDigit {letter : Char} (h : isDigit c = true)
    (hletter : isDigit letter = false) : spellsLetter letter c = false := by
  have hcase : c ≠ letter := by
    rintro rfl
    rw [h] at hletter
    cases hletter
  have hlong : c ≠ 'ſ' := by
    rintro rfl
    cases h
  simp [spellsLetter, toLower_of_isDigit h, hcase, hlong]

/-- **No truth value is an integer.** -/
theorem isInteger_of_isBoolWord (h : isBoolWord t = true) : isInteger t = false := by
  rw [← Bool.not_eq_true, isInteger_iff]
  rintro (hdigits | ⟨digits, rfl, -⟩)
  · obtain ⟨hne, hall⟩ := isDigits_iff.mp hdigits
    obtain ⟨c, hc⟩ := List.exists_mem_of_ne_nil t hne
    have hletters : (ofString "truefalse").any isDigit = false := rfl
    have hnone : (ofString "truefalse").any (spellsLetter · c) = false := by
      refine List.any_eq_false.mpr fun letter hletter hspells => ?_
      have hdigit := eq_false_of_ne_true (List.any_eq_false.mp hletters letter hletter)
      rw [spellsLetter_of_isDigit (hall c hc) hdigit] at hspells
      cases hspells
    exact not_mem_of_isBoolWord h hnone hc
  · exact not_mem_of_isBoolWord h rfl List.mem_cons_self

/-! ## Tokens without quotes -/

theorem referenceName?_of_not_mem (h : '$' ∉ t) : referenceName? t = none := by
  refine Option.eq_none_iff_forall_ne_some.mpr fun name hname => h ?_
  rw [(referenceName?_eq_some_iff.mp hname).1]
  exact List.mem_cons_self

theorem interpolatedBody?_of_not_mem (h : '"' ∉ t) : interpolatedBody? t = none := by
  refine Option.eq_none_iff_forall_ne_some.mpr fun body hbody => h ?_
  rw [interpolatedBody?_eq_some_iff.mp hbody, interpolated]
  exact List.mem_cons_of_mem _ List.mem_cons_self

theorem quotedBody?_of_not_mem (h : '"' ∉ t) : quotedBody? t = none := by
  refine Option.eq_none_iff_forall_ne_some.mpr fun body hbody => h ?_
  rw [quotedBody?_eq_some_iff.mp hbody]
  exact List.mem_cons_self

end Script

/-! ## What tokens are written for -/

open Script

/-- A literal with the value that it stands for: digits of any writing system, of which a minus gives
the negative; a word that is true when in lower case it is `true`; or a text between double quotes. -/
inductive Denotes : Text → Scalar → Prop
  | int {t : Text} {i : Int} (hi : Numeral t i) : Denotes t (.int i)
  | bool {t : Text} {b : Bool} (ht : isBoolWord t = true)
      (hb : b = true ↔ lower t = ofString "true") : Denotes t (.bool b)
  | quoted (body : Text) : Denotes ('"' :: (body ++ ['"'])) (.text (unescape body))

/-- The value as a token is written for it. -/
def Value.ofScalar : Scalar → Value
  | .int i => .int i
  | .bool b => .bool b
  | .text t => .text t false

/-- A trimmed token with what it is written for. -/
inductive WrittenFor : Text → Value → Prop
  | reference {name : Text} (hname : isIdentifier name = true) :
      WrittenFor ('$' :: name) (.reference name)
  | interpolated (body : Text) : WrittenFor (interpolated body) (.text (unescape body) true)
  | literal {t : Text} {value : Scalar} (h : Denotes t value) : WrittenFor t (Value.ofScalar value)
  | bare {t : Text} (href : referenceName? t = none) (hinter : interpolatedBody? t = none)
      (hquoted : quotedBody? t = none) (hint : isInteger t = false) (hbool : isBoolWord t = false) :
      WrittenFor t (.text t false)

namespace Denotes

variable {t : Text} {value : Scalar}

theorem of_isBoolWord (h : isBoolWord t = true) : Denotes t (.bool (truth t)) :=
  .bool h decide_eq_true_iff

/-- A literal that is no string has neither a dollar sign nor a double quote in it. -/
theorem not_mem (h : Denotes t value) (hvalue : Machine.valueType value ≠ .string) :
    '$' ∉ t ∧ '"' ∉ t := by
  cases h with
  | int hi =>
    exact ⟨not_mem_of_isInteger hi.isInteger (by decide) (by decide),
      not_mem_of_isInteger hi.isInteger (by decide) (by decide)⟩
  | bool ht => exact ⟨not_mem_of_isBoolWord ht rfl, not_mem_of_isBoolWord ht rfl⟩
  | quoted body => exact absurd rfl hvalue

theorem quotedBody?_eq_none (h : Denotes t value) (hvalue : Machine.valueType value ≠ .string) :
    quotedBody? t = none :=
  quotedBody?_of_not_mem (h.not_mem hvalue).2

/-- A literal is no reference. -/
theorem referenceName?_eq_none (h : Denotes t value) : referenceName? t = none := by
  by_cases hvalue : Machine.valueType value = .string
  · cases h with
    | int | bool => cases hvalue
    | quoted body => simp [referenceName?]
  · exact referenceName?_of_not_mem (h.not_mem hvalue).1

/-- A literal is not interpolated. -/
theorem interpolatedBody?_eq_none (h : Denotes t value) : interpolatedBody? t = none := by
  by_cases hvalue : Machine.valueType value = .string
  · cases h with
    | int | bool => cases hvalue
    | quoted body => simp [interpolatedBody?]
  · exact interpolatedBody?_of_not_mem (h.not_mem hvalue).2

theorem ne_interpolated (h : Denotes t value) (body : Text) : t ≠ interpolated body := by
  intro ht
  have hbody := interpolatedBody?_eq_some_iff.mpr ht
  rw [h.interpolatedBody?_eq_none] at hbody
  cases hbody

theorem truth_eq {b : Bool} (h : Denotes t (.bool b)) : truth t = b := by
  cases h with
  | bool _ hb => exact Bool.eq_iff_iff.mpr (decide_eq_true_iff.trans hb.symm)

/-- **A literal is read as the value that it stands for.** -/
theorem ofToken (h : Denotes t value) (ht : Trimmed t) (hlong : ¬ Overlong t) :
    Value.ofToken t = .ok (Value.ofScalar value) := by
  have href := h.referenceName?_eq_none
  have hinter := h.interpolatedBody?_eq_none
  cases value with
  | int i =>
    have hquoted := h.quotedBody?_eq_none (by simp [Machine.valueType])
    cases h with
    | int hi =>
      simp only [Value.ofToken, ht.trim_eq, href, hinter, hquoted, hi.isInteger, hi.integer hlong,
        if_true]
      rfl
  | bool b =>
    have hquoted := h.quotedBody?_eq_none (by simp [Machine.valueType])
    have htruth := h.truth_eq
    cases h with
    | bool hword =>
      simp only [Value.ofToken, ht.trim_eq, href, hinter, hquoted, hword,
        isInteger_of_isBoolWord hword, if_true, if_neg Bool.false_ne_true, htruth]
      rfl
  | text text =>
    cases h with
    | quoted body =>
      have hquoted := quotedBody?_eq_some_iff.mpr (rfl : '"' :: (body ++ ['"']) = _)
      simp only [Value.ofToken, ht.trim_eq, href, hinter, hquoted]
      rfl

end Denotes

theorem ofToken_of_writtenFor {t : Text} {v : Value} (h : WrittenFor t v) (ht : Trimmed t)
    (hlong : ¬ Overlong t) : Value.ofToken t = .ok v := by
  cases h with
  | reference hname =>
    have href := referenceName?_eq_some_iff.mpr ⟨rfl, hname⟩
    simp only [Value.ofToken, ht.trim_eq, href]
  | interpolated body =>
    have hinter := interpolatedBody?_eq_some_iff.mpr (rfl : interpolated body = _)
    simp only [Value.ofToken, ht.trim_eq, referenceName?_interpolated, hinter]
  | literal h => exact h.ofToken ht hlong
  | bare href hinter hquoted hint hbool =>
    simp only [Value.ofToken, ht.trim_eq, href, hinter, hquoted, hint, hbool,
      if_neg Bool.false_ne_true]

/-- Every token is written for something. -/
theorem exists_writtenFor (t : Text) : ∃ v, WrittenFor t v := by
  cases href : referenceName? t with
  | some name =>
    obtain ⟨rfl, hname⟩ := referenceName?_eq_some_iff.mp href
    exact ⟨_, .reference hname⟩
  | none =>
    cases hinter : interpolatedBody? t with
    | some body =>
      obtain rfl := interpolatedBody?_eq_some_iff.mp hinter
      exact ⟨_, .interpolated body⟩
    | none =>
      cases hquoted : quotedBody? t with
      | some body =>
        obtain rfl := quotedBody?_eq_some_iff.mp hquoted
        exact ⟨_, .literal (.quoted body)⟩
      | none =>
        cases hint : isInteger t with
        | true =>
          obtain ⟨i, hi⟩ := exists_numeral hint
          exact ⟨_, .literal (.int hi)⟩
        | false =>
          cases hbool : isBoolWord t with
          | true => exact ⟨_, .literal (.of_isBoolWord hbool)⟩
          | false => exact ⟨_, .bare href hinter hquoted hint hbool⟩

/-- **A trimmed token is read as what it is written for**, and as nothing else. -/
theorem ofToken_eq_ok_iff {t : Text} {v : Value} (ht : Trimmed t) (hlong : ¬ Overlong t) :
    Value.ofToken t = .ok v ↔ WrittenFor t v := by
  refine ⟨fun hv => ?_, fun h => ofToken_of_writtenFor h ht hlong⟩
  obtain ⟨w, hw⟩ := exists_writtenFor t
  obtain rfl := Except.ok.inj ((ofToken_of_writtenFor hw ht hlong).symm.trans hv)
  exact hw

end Dialogue
