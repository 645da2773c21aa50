import Dialogue.Proofs.Outcome
import Dialogue.Proofs.Text.Trim
import Dialogue.Text.Numeral
import Mathlib.Data.List.Induction
import Mathlib.Tactic.Ring

/-!
# Numbers within the limit

Reading and writing a number are refused for the number of its digits and for nothing else. What has
been read has no more digits than it was written in, and so it can always be written again.

* `RefusedFor`: what a computation may be refused for, carried through chains of computations by
  `RefusedFor.bind` and `RefusedFor.map`; `TooManyDigits.Reading`: what reading is refused for;
* `Unwritable`: the integers that are refused when they are to be written, and that no others are;
* `isInteger_iff`, `Numeral`: an integer is digits, or digits behind a minus, and what these stand for;
* `Overlong`, `Numeral.integer`: the integers that are refused, and that no others are;
* `digitsValue_append`, `digitsValue_lt`: the value of a row of digits put before another, and that
  it is below the power of ten of its length;
* **`limitedDecimal_of_leadingInteger`**: an integer that has been read can be written;
* `leadingInteger_eq_integer`: in a text that is an integer, the integer at its start is all of it;
* **`leadingInteger_decimal`**: an integer that has been written is read back.
-/

namespace Dialogue.Text

variable {α β : Type}

/-! ## Refusals -/

/-- Whatever the computation is refused for has the property. -/
def RefusedFor (P : TooManyDigits → Prop) (x : Except TooManyDigits α) : Prop :=
  ∀ e, x = .error e → P e

variable {P : TooManyDigits → Prop} {x : Except TooManyDigits α}

theorem refusedFor_ok (a : α) : RefusedFor P (.ok a) := nofun

theorem refusedFor_pure (a : α) : RefusedFor P (pure a : Except TooManyDigits α) :=
  refusedFor_ok a

theorem RefusedFor.bind {f : α → Except TooManyDigits β} (hx : RefusedFor P x)
    (hf : ∀ a, RefusedFor P (f a)) : RefusedFor P (x >>= f) := by
  cases x with
  | error e => exact fun e' he => hx e' (congrArg Except.error (Except.error.inj he))
  | ok a => exact hf a

theorem RefusedFor.map (hx : RefusedFor P x) (f : α → β) : RefusedFor P (x.map f) := by
  cases x with
  | error e => exact fun e' he => hx e' (congrArg Except.error (Except.error.inj he))
  | ok a => exact refusedFor_ok (f a)

theorem RefusedFor.mono {Q : TooManyDigits → Prop} (hx : RefusedFor P x) (h : ∀ e, P e → Q e) :
    RefusedFor Q x :=
  fun e he => h e (hx e he)

theorem RefusedFor.mapM {γ : Type} {f : γ → Except TooManyDigits α} {cs : List γ}
    (hf : ∀ c ∈ cs, RefusedFor P (f c)) : RefusedFor P (cs.mapM f) := by
  induction cs with
  | nil => exact refusedFor_pure []
  | cons c cs ih =>
    obtain ⟨hc, hcs⟩ := List.forall_mem_cons.mp hf
    rw [List.mapM_cons]
    exact hc.bind fun _ => (ih hcs).bind fun _ => refusedFor_pure _

/-- A number was to be read, and it has too many digits. -/
def TooManyDigits.Reading (e : TooManyDigits) : Prop := maxDigits < e.digits ∧ e.writing = false

theorem natural_refused (digits : Text) : RefusedFor TooManyDigits.Reading (natural digits) := by
  intro e he
  unfold natural at he
  split at he
  · rename_i hlen
    cases he
    exact ⟨hlen, rfl⟩
  · cases he

theorem integer_refused (t : Text) : RefusedFor TooManyDigits.Reading (integer t) := by
  unfold integer
  split
  · exact ((natural_refused _).bind fun _ => refusedFor_pure _).map _
  · exact (natural_refused _).map _
  · exact (natural_refused _).map _

theorem leadingInteger_refused (t : Text) :
    RefusedFor TooManyDigits.Reading (leadingInteger t) := by
  unfold leadingInteger
  split
  · exact ((natural_refused _).bind fun _ => refusedFor_pure _).map _
  · exact (natural_refused _).map _
  · exact (natural_refused _).map _

/-- The integer has too many digits to be written. -/
def Unwritable (i : Int) : Prop := maxDigits < (Nat.toDigits 10 i.natAbs).length

instance (i : Int) : Decidable (Unwritable i) := inferInstanceAs (Decidable (maxDigits < _))

theorem unwritable_iff {i : Int} : Unwritable i ↔ 10 ^ maxDigits ≤ i.natAbs := by
  rw [Unwritable, ← Nat.not_le, Nat.length_toDigits_le_iff (by decide) (by decide), Nat.not_lt]

theorem limitedDecimal_of_unwritable {i : Int} (h : Unwritable i) : limitedDecimal i =
    .error { digits := (Nat.toDigits 10 i.natAbs).length, writing := true } :=
  if_pos h

theorem limitedDecimal_of_not_unwritable {i : Int} (h : ¬ Unwritable i) :
    limitedDecimal i = .ok (decimal i) :=
  if_neg h

theorem limitedDecimal_refused (i : Int) :
    RefusedFor (fun e => maxDigits < e.digits) (limitedDecimal i) := by
  intro e he
  by_cases hi : Unwritable i
  · rw [limitedDecimal_of_unwritable hi] at he
    cases he
    exact hi
  · rw [limitedDecimal_of_not_unwritable hi] at he
    cases he

/-! ## Integers -/

theorem isDigits_iff {t : Text} : isDigits t = true ↔ t ≠ [] ∧ ∀ c ∈ t, isDigit c = true := by
  simp [isDigits]

theorem isInteger_iff {t : Text} : isInteger t = true ↔
    isDigits t = true ∨ ∃ digits, t = '-' :: digits ∧ isDigits digits = true := by
  constructor
  · intro h
    unfold isInteger at h
    split at h
    · exact .inr ⟨_, rfl, h⟩
    · exact .inl h
  · rintro (h | ⟨digits, rfl, h⟩)
    · unfold isInteger
      split
      · -- a sign is no digit
        cases h
      · exact h
    · exact h

theorem integer_of_isDigits {t : Text} (h : isDigits t = true) :
    integer t = (natural t).map Int.ofNat := by
  unfold integer
  split
  · cases h
  · cases h
  · rfl

/-- The text is the integer `i` in digits of any writing system, behind a minus or not. -/
inductive Numeral : Text → Int → Prop
  | natural {digits : Text} (h : isDigits digits = true) : Numeral digits (digitsValue digits)
  | negative {digits : Text} (h : isDigits digits = true) :
      Numeral ('-' :: digits) (-(digitsValue digits : Int))

/-- The text is an integer of more digits than are read. -/
def Overlong (t : Text) : Prop :=
  ∃ digits, (t = digits ∨ t = '-' :: digits) ∧ isDigits digits = true ∧ maxDigits < digits.length

theorem not_overlong_of_length {t : Text} (h : t.length ≤ maxDigits) : ¬ Overlong t := by
  rintro ⟨digits, rfl | rfl, -, hlen⟩
  · exact Nat.not_lt_of_le h hlen
  · exact Nat.not_lt_of_le h (Nat.lt_succ_of_lt hlen)

theorem natural_of_length {digits : Text} (h : digits.length ≤ maxDigits) :
    natural digits = .ok (digitsValue digits) :=
  if_neg (Nat.not_lt_of_le h)

namespace Numeral

variable {t : Text} {i : Int}

theorem isInteger (h : Numeral t i) : isInteger t = true := by
  cases h with
  | natural hdigits => exact isInteger_iff.mpr (.inl hdigits)
  | negative hdigits => exact isInteger_iff.mpr (.inr ⟨_, rfl, hdigits⟩)

/-- **An integer that is not overlong is read** as what its digits stand for. -/
theorem integer (h : Numeral t i) (hlong : ¬ Overlong t) : integer t = .ok i := by
  cases h with
  | natural hdigits =>
    have hlen : t.length ≤ maxDigits :=
      Nat.le_of_not_lt fun hlt => hlong ⟨t, .inl rfl, hdigits, hlt⟩
    rw [integer_of_isDigits hdigits, natural_of_length hlen]
    rfl
  | @negative digits hdigits =>
    have hlen : digits.length ≤ maxDigits :=
      Nat.le_of_not_lt fun hlt => hlong ⟨digits, .inr rfl, hdigits, hlt⟩
    rw [Text.integer, natural_of_length hlen]
    rfl

end Numeral

theorem exists_numeral {t : Text} (h : isInteger t = true) : ∃ i, Numeral t i := by
  rcases isInteger_iff.mp h with hdigits | ⟨digits, rfl, hdigits⟩
  · exact ⟨_, .natural hdigits⟩
  · exact ⟨_, .negative hdigits⟩

theorem integer_of_not_overlong {t : Text} (ht : isInteger t = true) (hlong : ¬ Overlong t) :
    ∃ i, integer t = .ok i := by
  obtain ⟨i, hi⟩ := exists_numeral ht
  exact ⟨i, hi.integer hlong⟩

/-! ## The digits of what is read -/

theorem digitValue?_le {c : Char} {d : Nat} (h : digitValue? c = some d) : d ≤ 9 := by
  unfold digitValue? at h
  split at h
  · split at h
    · obtain rfl := Option.some.inj h
      omega
    · cases h
  · obtain ⟨z, hz, rfl⟩ := Option.map_eq_some_iff.mp h
    have hbounds := List.find?_some hz
    simp only [Bool.and_eq_true, decide_eq_true_eq] at hbounds
    omega

theorem digitsValue_concat (t : Text) (c : Char) :
    digitsValue (t ++ [c]) = 10 * digitsValue t + (digitValue? c).getD 0 := by
  simp [digitsValue]

/-- **Digits put before others count by the power of ten of these.** -/
theorem digitsValue_append (s t : Text) :
    digitsValue (s ++ t) = digitsValue s * 10 ^ t.length + digitsValue t := by
  induction t using List.reverseRecOn with
  | nil => simp [digitsValue]
  | append_singleton t c ih =>
    rw [← List.append_assoc, digitsValue_concat, ih, digitsValue_concat, List.length_append,
      List.length_singleton, Nat.pow_succ]
    ring

/-- **A row of digits stays below the power of ten of its length.** -/
theorem digitsValue_lt (t : Text) : digitsValue t < 10 ^ t.length := by
  induction t using List.reverseRecOn with
  | nil => exact Nat.one_pos
  | append_singleton t c ih =>
    have hd : (digitValue? c).getD 0 ≤ 9 := by
      cases hc : digitValue? c with
      | none => exact Nat.zero_le 9
      | some d => exact digitValue?_le hc
    rw [digitsValue_concat, List.length_append, List.length_singleton, Nat.pow_succ]
    omega

theorem decimal_natCast (n : Nat) : decimal n = Nat.toDigits 10 n := by
  rw [decimal, if_neg (by omega), Int.natAbs_natCast]

theorem length_toDigits_of_natural {digits : Text} {n : Nat} (h : natural digits = .ok n) :
    (Nat.toDigits 10 n).length ≤ maxDigits := by
  unfold natural at h
  split at h
  · cases h
  · rename_i hlen
    obtain rfl := Except.ok.inj h
    refine (Nat.length_toDigits_le_iff (by decide) (by decide)).mpr ?_
    exact Nat.lt_of_lt_of_le (digitsValue_lt digits)
      (Nat.pow_le_pow_right (by decide) (Nat.le_of_not_lt hlen))

theorem limitedDecimal_eq_ok_iff {i : Int} {t : Text} :
    limitedDecimal i = .ok t ↔ ¬ Unwritable i ∧ decimal i = t := by
  by_cases hi : Unwritable i
  · rw [limitedDecimal_of_unwritable hi]
    exact ⟨nofun, fun h => absurd hi h.1⟩
  · rw [limitedDecimal_of_not_unwritable hi]
    exact ⟨fun h => ⟨hi, Except.ok.inj h⟩, fun h => congrArg _ h.2⟩

/-- **An integer that has been read can be written.** -/
theorem limitedDecimal_of_leadingInteger {t : Text} {i : Int} (h : leadingInteger t = .ok i) :
    limitedDecimal i = .ok (decimal i) := by
  refine limitedDecimal_of_not_unwritable (Nat.not_lt_of_le ?_)
  unfold leadingInteger at h
  split at h
  · obtain ⟨k, hk, rfl⟩ := map_eq_ok_iff.mp h
    obtain ⟨n, hn, hk⟩ := bind_eq_ok_iff.mp hk
    obtain rfl := pure_eq_ok_iff.mp hk
    rw [Int.natAbs_neg]
    exact length_toDigits_of_natural hn
  · obtain ⟨n, hn, rfl⟩ := map_eq_ok_iff.mp h
    exact length_toDigits_of_natural hn
  · obtain ⟨n, hn, rfl⟩ := map_eq_ok_iff.mp h
    exact length_toDigits_of_natural hn

/-! ## Reading back what is written -/

theorem isBlank_of_isDigit {c : Char} (h : isDigit c = true) : isBlank c = false := by
  have hlow : ¬ c.toNat < 48 := by
    intro hlt
    rw [isDigit, digitValue?, if_pos (by omega), if_neg (by omega)] at h
    cases h
  have hwide : c ∉ wideBlanks := by
    intro hmem
    have hnone : wideBlanks.any isDigit = false := by decide
    exact List.any_eq_false.mp hnone c hmem h
  have hspace : c ≠ ' ' := by
    rintro rfl
    exact hlow (by decide)
  simp only [isBlank, hspace, decide_false, Bool.false_or, Bool.or_eq_false_iff,
    Bool.and_eq_false_iff, decide_eq_false_iff_not, List.contains_eq_mem]
  exact ⟨by omega, hwide⟩

/-- **In a text that is an integer, the integer at its start is all of it.** -/
theorem leadingInteger_eq_integer {t : Text} (h : isInteger t = true) :
    leadingInteger t = integer t := by
  have hall : ∀ {digits}, isDigits digits = true → digits.takeWhile isDigit = digits :=
    fun hdigits => List.takeWhile_eq_self_iff.mpr (isDigits_iff.mp hdigits).2
  have hblank : ∀ {digits}, isDigits digits = true → ∀ c ∈ digits, isBlank c = false :=
    fun hdigits c hc => isBlank_of_isDigit ((isDigits_iff.mp hdigits).2 c hc)
  rcases isInteger_iff.mp h with hdigits | ⟨digits, rfl, hdigits⟩
  · rw [leadingInteger, (trimmed_of_forall (hblank hdigits)).trim_eq, integer_of_isDigits hdigits]
    split
    · cases hdigits
    · cases hdigits
    · rw [hall hdigits]
  · have htrim : Trimmed ('-' :: digits) :=
      trimmed_of_forall (List.forall_mem_cons.mpr ⟨by decide, hblank hdigits⟩)
    rw [leadingInteger, htrim.trim_eq]
    simp only [hall hdigits]
    rfl

theorem digitValue?_of_ascii {c : Char} (h : c.isDigit = true) :
    digitValue? c = some (c.toNat - 48) := by
  have hbounds : 48 ≤ c.toNat ∧ c.toNat ≤ 57 := Char.isDigit_iff_toNat.mp h
  rw [digitValue?, if_pos (by omega), if_pos hbounds]

theorem isDigits_toDigits (n : Nat) : isDigits (Nat.toDigits 10 n) = true := by
  refine isDigits_iff.mpr ⟨Nat.toDigits_ne_nil, fun c hc => ?_⟩
  rw [isDigit, digitValue?_of_ascii (Nat.isDigit_of_mem_toDigits (by decide) (by decide) hc)]
  rfl

/-- Nothing but zero opens with a zero. -/
theorem eq_zero_of_toDigits {n : Nat} {ds : Text} (h : Nat.toDigits 10 n = '0' :: ds) : n = 0 := by
  induction n using Nat.strongRecOn generalizing ds with
  | _ n ih =>
    rcases Nat.lt_or_ge n 10 with hlt | hge
    · rw [Nat.toDigits_of_lt_base hlt] at h
      have hdigit := (List.cons.inj h).1
      revert hdigit
      clear h ih
      revert n
      decide
    · rw [Nat.toDigits_of_base_le (by decide) hge] at h
      obtain ⟨c, cs, hquotient⟩ :=
        List.exists_cons_of_ne_nil (Nat.toDigits_ne_nil (b := 10) (n := n / 10))
      rw [hquotient, List.cons_append] at h
      obtain ⟨rfl, -⟩ := List.cons.inj h
      have hzero := ih (n / 10) (by omega) hquotient
      omega

theorem isAsciiDigit_of_mem_toDigits {n : Nat} {c : Char} (h : c ∈ Nat.toDigits 10 n) :
    isAsciiDigit c = true := by
  have hdigit := Nat.isDigit_of_mem_toDigits (by decide) (by decide) h
  exact hdigit

/-- The digits of a number have its value. -/
theorem digitsValue_toDigits (n : Nat) : digitsValue (Nat.toDigits 10 n) = n := by
  calc digitsValue (Nat.toDigits 10 n)
    _ = Nat.ofDigitChars 10 (Nat.toDigits 10 n) 0 := by
      rw [digitsValue, Nat.ofDigitChars_eq_foldl]
      refine List.foldl_ext _ _ 0 fun m c hc => ?_
      rw [digitValue?_of_ascii (Nat.isDigit_of_mem_toDigits (by decide) (by decide) hc)]
      rfl
    _ = n := Nat.ofDigitChars_ten_toDigits

theorem isInteger_decimal (i : Int) : isInteger (decimal i) = true := by
  rw [isInteger_iff, decimal]
  split_ifs
  · exact .inr ⟨_, rfl, isDigits_toDigits _⟩
  · exact .inl (isDigits_toDigits _)

/-- **An integer that has been written is read back**, if it has no more digits than are read. -/
theorem leadingInteger_decimal {i : Int} (h : (Nat.toDigits 10 i.natAbs).length ≤ maxDigits) :
    leadingInteger (decimal i) = .ok i := by
  have hnatural : natural (Nat.toDigits 10 i.natAbs) = .ok i.natAbs := by
    rw [natural_of_length h, digitsValue_toDigits]
  rw [leadingInteger_eq_integer (isInteger_decimal i), decimal]
  split_ifs with hneg
  · rw [integer, hnatural]
    change Except.ok (-(i.natAbs : Int)) = .ok i
    rw [Int.ofNat_natAbs_of_nonpos (Int.le_of_lt hneg), Int.neg_neg]
  · rw [integer_of_isDigits (isDigits_toDigits _), hnatural]
    exact congrArg Except.ok (Int.natAbs_of_nonneg (Int.not_lt.mp hneg))

end Dialogue.Text
