import Dialogue.Catalog.Contract
import Dialogue.Proofs.Script.Tokens
import Dialogue.Proofs.Script.Command
import Dialogue.Proofs.Text.Numeral

/-!
# Releases and their numbers

The tag of a release is groups of digits with dots between, perhaps with letters behind. Releases
are ordered group by group; the number of a tag is that of all its digits in a row. The two orders
agree where each group but the first is written in as many digits in one tag as in the other, and
nowhere else: for any other two ways of writing tags some releases are ordered wrongly.

* `versionDigits`, `versionNumber_eq_error_iff`: the digits that make the number of a tag, and that
  it is refused for having too many of them;
* `Release`, `Release.versionNumber_tag`: the tags of releases have numbers;
* `Precedes`: the order of releases by the values of their groups;
* `Release.number_lt_iff_of_alike`: where the groups line up, the numbers have that order;
* `spike`, `Release.Ordered.sum_drop_eq`: tags with one digit that is not zero show that behind each
  group must stand equally many digits;
* **`Release.alike_iff_ordered`**: the groups must line up, or the numbers do not have that order.
-/

namespace Dialogue

open Text

/-! ## The digits of a tag -/

/-- The digits that make the number of a tag. -/
def versionDigits (tag : Text) : Text := ((trim tag).filter (· ≠ '.')).takeWhile isDigit

/-- The tag has more digits than are read. -/
def OverlongTag (tag : Text) : Prop := maxDigits < (versionDigits tag).length

instance (tag : Text) : Decidable (OverlongTag tag) := inferInstanceAs (Decidable (_ < _))

theorem versionNumber_of_not_overlong {tag : Text} (h : ¬ OverlongTag tag) :
    versionNumber tag =
      .ok (if (versionDigits tag).isEmpty then none
        else some (digitsValue (versionDigits tag))) := by
  rw [versionNumber, ← versionDigits]
  split_ifs
  · rfl
  · rw [natural_of_length (Nat.le_of_not_lt h)]
    rfl

/-- **The number of a tag is refused for its digits**, when they are too many, and for nothing
else. -/
theorem versionNumber_eq_error_iff {tag : Text} {e : TooManyDigits} :
    versionNumber tag = .error e ↔
      OverlongTag tag ∧ e = { digits := (versionDigits tag).length } := by
  by_cases h : OverlongTag tag
  · have hne : (versionDigits tag).isEmpty = false := by
      rw [List.isEmpty_eq_false_iff]
      rintro hnil
      rw [OverlongTag, hnil] at h
      exact absurd h (Nat.not_lt_zero _)
    have herror : versionNumber tag = .error { digits := (versionDigits tag).length } := by
      have hdigits : natural (versionDigits tag) =
          .error { digits := (versionDigits tag).length } := if_pos h
      rw [versionNumber, ← versionDigits, hne, if_neg Bool.false_ne_true, hdigits]
      rfl
    rw [herror, Except.error.injEq]
    exact ⟨fun he => ⟨h, he.symm⟩, fun he => he.2.symm⟩
  · rw [versionNumber_of_not_overlong h]
    exact ⟨nofun, fun he => absurd he.1 h⟩

/-! ## The order of releases -/

/-- The first numbers are before the second ones in lexicographic order, the shorter list padded
with zeros. -/
def Precedes (u v : List Nat) : Prop := u.rightpad v.length 0 < v.rightpad u.length 0

instance (u v : List Nat) : Decidable (Precedes u v) := inferInstanceAs (Decidable (_ < _))

theorem precedes_cons {a b : Nat} {u v : List Nat} :
    Precedes (a :: u) (b :: v) ↔ a < b ∨ a = b ∧ Precedes u v := by
  simp only [Precedes, List.rightpad, List.cons_append, List.length_cons, Nat.add_sub_add_right]
  exact List.cons_lt_cons_iff

theorem precedes_of_length {u v : List Nat} (h : u.length = v.length) :
    Precedes u v ↔ u < v := by
  simp [Precedes, List.rightpad, h]

/-! ## Releases -/

namespace Text

theorem toNat_of_isAsciiDigit {c : Char} (h : isAsciiDigit c = true) :
    48 ≤ c.toNat ∧ c.toNat ≤ 57 := by
  simp only [isAsciiDigit, Bool.and_eq_true, decide_eq_true_eq] at h
  exact h

theorem isDigit_of_isAsciiDigit {c : Char} (h : isAsciiDigit c = true) : isDigit c = true := by
  have hrange := toNat_of_isAsciiDigit h
  rw [isDigit, digitValue?, if_pos (by omega), if_pos hrange]
  rfl

theorem isNameChar_of_isAsciiDigit {c : Char} (h : isAsciiDigit c = true) :
    isNameChar c = true := by
  have hdigit : c.isDigit = true := by
    simp only [Char.isDigit, Bool.and_eq_true, decide_eq_true_eq, UInt32.le_iff_toNat_le, ge_iff_le]
    exact toNat_of_isAsciiDigit h
  simp [isNameChar, Char.isAlphanum, hdigit]

theorem isDigit_of_isAlpha {c : Char} (h : c.isAlpha = true) : isDigit c = false := by
  have hrange : 65 ≤ c.toNat ∧ c.toNat < 128 := by
    delta Char.isAlpha Char.isUpper Char.isLower at h
    simp only [Bool.or_eq_true, Bool.and_eq_true, decide_eq_true_eq, UInt32.le_iff_toNat_le,
      ge_iff_le] at h
    change (65 ≤ c.toNat ∧ c.toNat ≤ 90) ∨ (97 ≤ c.toNat ∧ c.toNat ≤ 122) at h
    omega
  rw [isDigit, digitValue?, if_pos hrange.2, if_neg (by omega)]
  rfl

end Text

/-- A release: groups of digits, and letters behind them. -/
structure Release where
  groups : List Text
  letters : Text := []
  groups_ne : groups ≠ [] := by decide
  group : ∀ g ∈ groups, g ≠ [] ∧ g.all isAsciiDigit = true := by decide
  letter : letters.all Char.isAlpha = true := by decide
  length_le : groups.flatten.length ≤ maxDigits := by decide

namespace Release

/-- The groups with dots between, and the letters. -/
def tag (r : Release) : Text := joinWith ['.'] r.groups ++ r.letters

/-- The values of the groups. -/
def values (r : Release) : List Nat := r.groups.map digitsValue

/-- How many digits the groups are written in. -/
def widths (r : Release) : List Nat := r.groups.map List.length

/-- The number that all digits make. -/
def number (r : Release) : Nat := digitsValue r.groups.flatten

/-- The releases have equally many groups, and each but the first has equally many digits in both.
-/
def Alike (r s : Release) : Prop := r.widths.tail = s.widths.tail

instance (r s : Release) : Decidable (r.Alike s) := inferInstanceAs (Decidable (_ = _))

theorem isAsciiDigit_of_mem (r : Release) {g : Text} (hg : g ∈ r.groups) :
    ∀ c ∈ g, isAsciiDigit c = true :=
  List.all_eq_true.mp (r.group g hg).2

theorem isAlpha_of_mem (r : Release) : ∀ c ∈ r.letters, c.isAlpha = true :=
  List.all_eq_true.mp r.letter

theorem filter_joinWith {gs : List Text} (h : ∀ g ∈ gs, '.' ∉ g) :
    (joinWith ['.'] gs).filter (· ≠ '.') = gs.flatten := by
  have hkeep : ∀ g ∈ gs, g.filter (· ≠ '.') = g := fun g hg =>
    List.filter_eq_self.mpr fun c hc => decide_eq_true fun hdot => h g hg (hdot ▸ hc)
  clear h
  fun_induction joinWith ['.'] gs with
  | case1 => rfl
  | case2 g => rw [hkeep g List.mem_cons_self, List.flatten_singleton]
  | case3 g k gs ih =>
    have hrest := ih fun g hg => hkeep g (List.mem_cons_of_mem _ hg)
    have hdot : ['.'].filter (· ≠ '.') = [] := rfl
    rw [List.filter_append, List.filter_append, hrest, hkeep g List.mem_cons_self, hdot,
      List.append_nil, List.flatten_cons (l := g)]

/-- The digits that make the number of the tag are all of them. -/
theorem versionDigits_tag (r : Release) : versionDigits r.tag = r.groups.flatten := by
  have hdigit : ∀ c ∈ r.groups.flatten, isAsciiDigit c = true := by
    intro c hc
    obtain ⟨g, hg, hcg⟩ := List.mem_flatten.mp hc
    exact r.isAsciiDigit_of_mem hg c hcg
  have htrim : Trimmed r.tag := by
    refine trimmed_of_forall fun c hc => ?_
    rcases List.mem_append.mp hc with hc | hc
    · rcases Script.mem_joinWith hc with hc | ⟨g, hg, hc⟩
      · obtain rfl := List.mem_singleton.mp hc
        decide
      · exact isBlank_of_isNameChar (isNameChar_of_isAsciiDigit (r.isAsciiDigit_of_mem hg c hc))
    · have halpha := r.isAlpha_of_mem c hc
      exact isBlank_of_isNameChar (by simp [isNameChar, Char.isAlphanum, halpha])
  have hdots : ∀ g ∈ r.groups, '.' ∉ g := fun g hg hdot =>
    absurd (r.isAsciiDigit_of_mem hg '.' hdot) (by decide)
  have hletters : r.letters.filter (· ≠ '.') = r.letters :=
    List.filter_eq_self.mpr fun c hc => decide_eq_true fun hdot =>
      absurd (hdot ▸ r.isAlpha_of_mem c hc) (by decide)
  have hstop : r.letters.takeWhile isDigit = [] := by
    cases hl : r.letters with
    | nil => rfl
    | cons c l =>
      have halpha := r.isAlpha_of_mem c (hl ▸ List.mem_cons_self)
      rw [List.takeWhile_cons_of_neg (by simp [isDigit_of_isAlpha halpha])]
  rw [versionDigits, htrim.trim_eq, tag, List.filter_append, filter_joinWith hdots, hletters,
    List.takeWhile_append_of_pos fun c hc => isDigit_of_isAsciiDigit (hdigit c hc), hstop,
    List.append_nil]

/-- **The tag of a release has a number**, that of all its digits in a row. -/
theorem versionNumber_tag (r : Release) : versionNumber r.tag = .ok (some r.number) := by
  have hshort : ¬ OverlongTag r.tag := by
    rw [OverlongTag, r.versionDigits_tag]
    exact Nat.not_lt_of_le r.length_le
  have hne : r.groups.flatten ≠ [] := by
    obtain ⟨g, gs, hgs⟩ := List.exists_cons_of_ne_nil r.groups_ne
    have hg := (r.group g (hgs ▸ List.mem_cons_self)).1
    rw [hgs, List.flatten_cons]
    exact List.append_ne_nil_of_left_ne_nil hg _
  rw [versionNumber_of_not_overlong hshort, r.versionDigits_tag,
    if_neg (by simpa using hne), number]

end Release

/-! ## Where the groups line up -/

/-- Two digits of a positional number, the lower ones below the base. -/
theorem radix_lt_iff {a b m n base : Nat} (hm : m < base) (hn : n < base) :
    a * base + m < b * base + n ↔ a < b ∨ a = b ∧ m < n := by
  rcases Nat.lt_trichotomy a b with h | rfl | h
  · have hmul := Nat.mul_le_mul_right base (Nat.succ_le_of_lt h)
    rw [Nat.succ_mul] at hmul
    omega
  · omega
  · have hmul := Nat.mul_le_mul_right base (Nat.succ_le_of_lt h)
    rw [Nat.succ_mul] at hmul
    omega

/-- Rows of digits that go on equally long are ordered by how they begin, and then by how they go
on. -/
theorem digitsValue_append_lt_iff {g k u v : Text} (h : u.length = v.length) :
    digitsValue (g ++ u) < digitsValue (k ++ v) ↔
      digitsValue g < digitsValue k ∨
        digitsValue g = digitsValue k ∧ digitsValue u < digitsValue v := by
  rw [digitsValue_append, digitsValue_append, ← h]
  exact radix_lt_iff (digitsValue_lt u) (h ▸ digitsValue_lt v)

/-- **Groups that line up have the order of their numbers.** -/
theorem digitsValue_flatten_lt_iff {gs ks : List Text}
    (h : gs.map List.length = ks.map List.length) :
    digitsValue gs.flatten < digitsValue ks.flatten ↔
      gs.map digitsValue < ks.map digitsValue := by
  induction gs generalizing ks with
  | nil =>
    obtain rfl : ks = [] := List.map_eq_nil_iff.mp h.symm
    simp
  | cons g gs ih =>
    cases ks with
    | nil => cases h
    | cons k ks =>
      have hrest : gs.map List.length = ks.map List.length := (List.cons.inj h).2
      have hlength : gs.flatten.length = ks.flatten.length := by
        rw [List.length_flatten, List.length_flatten, hrest]
      rw [List.flatten_cons, List.flatten_cons, digitsValue_append_lt_iff hlength, ih hrest,
        List.map_cons, List.map_cons, List.cons_lt_cons_iff]

namespace Release

/-- **Where the groups line up, the numbers have the order of the releases.** The first group may
have any number of digits. -/
theorem number_lt_iff_of_alike {r s : Release} (h : r.Alike s) :
    r.number < s.number ↔ Precedes r.values s.values := by
  obtain ⟨g, gs, hgs⟩ := List.exists_cons_of_ne_nil r.groups_ne
  obtain ⟨k, ks, hks⟩ := List.exists_cons_of_ne_nil s.groups_ne
  have hrest : gs.map List.length = ks.map List.length := by
    simpa [Alike, widths, hgs, hks] using h
  have hcount : gs.length = ks.length := by simpa using congrArg List.length hrest
  have hlength : gs.flatten.length = ks.flatten.length := by
    rw [List.length_flatten, List.length_flatten, hrest]
  have hvalues : r.values.length = s.values.length := by simp [values, hgs, hks, hcount]
  rw [precedes_of_length hvalues, number, number, values, values, hgs, hks, List.flatten_cons,
    List.flatten_cons, digitsValue_append_lt_iff hlength, digitsValue_flatten_lt_iff hrest,
    List.map_cons, List.map_cons, List.cons_lt_cons_iff]

end Release

/-! ## Where they do not -/

/-- Groups of the given widths, all zeros but for the last digit of group `k`. -/
def spike (d : Char) : Nat → List Nat → List Text
  | _, [] => []
  | 0, w :: ws => (List.replicate (w - 1) '0' ++ [d]) :: ws.map (List.replicate · '0')
  | k + 1, w :: ws => List.replicate w '0' :: spike d k ws

section Spike

variable {d e : Char} {k : Nat} {us vs : List Nat}

theorem digitsValue_replicate (n : Nat) : digitsValue (List.replicate n '0') = 0 := by
  induction n with
  | zero => rfl
  | succ n ih =>
    rw [List.replicate_succ', digitsValue_concat, ih]
    rfl

theorem flatten_replicate (ws : List Nat) :
    (ws.map (List.replicate · '0')).flatten = List.replicate ws.sum '0' := by
  induction ws with
  | nil => rfl
  | cons w ws ih =>
    rw [List.map_cons, List.flatten_cons, ih, List.replicate_append_replicate, List.sum_cons]

theorem digitsValue_spike_head (d : Char) (n : Nat) :
    digitsValue (List.replicate n '0' ++ [d]) = (digitValue? d).getD 0 := by
  rw [digitsValue_concat, digitsValue_replicate]
  exact Nat.zero_add _

theorem map_length_spike (hpos : ∀ w ∈ us, 0 < w) (d : Char) (k : Nat) :
    (spike d k us).map List.length = us := by
  fun_induction spike d k us with
  | case1 => rfl
  | case2 w ws =>
    have hw := hpos w List.mem_cons_self
    simp [Nat.sub_add_cancel hw, Function.comp_def]
  | case3 k w ws ih =>
    rw [List.map_cons, ih fun w hw => hpos w (List.mem_cons_of_mem _ hw), List.length_replicate]

theorem eq_of_mem_spike {g : Text} {c : Char} (hg : g ∈ spike d k us) (hc : c ∈ g) :
    c = '0' ∨ c = d := by
  fun_induction spike d k us with
  | case1 => cases hg
  | case2 w ws =>
    rcases List.mem_cons.mp hg with rfl | hg
    · rcases List.mem_append.mp hc with hc | hc
      · exact .inl (List.eq_of_mem_replicate hc)
      · exact .inr (List.mem_singleton.mp hc)
    · obtain ⟨w, -, rfl⟩ := List.mem_map.mp hg
      exact .inl (List.eq_of_mem_replicate hc)
  | case3 k w ws ih =>
    rcases List.mem_cons.mp hg with rfl | hg
    · exact .inl (List.eq_of_mem_replicate hc)
    · exact ih hg

/-- The number of the groups is the digit, with a zero for each digit of the groups behind. -/
theorem digitsValue_spike (hk : k < us.length) (hpos : ∀ w ∈ us, 0 < w) (d : Char) :
    digitsValue (spike d k us).flatten =
      (digitValue? d).getD 0 * 10 ^ (us.drop (k + 1)).sum := by
  fun_induction spike d k us with
  | case1 => cases hk
  | case2 w ws =>
    rw [List.flatten_cons, digitsValue_append, digitsValue_spike_head, flatten_replicate,
      digitsValue_replicate, List.length_replicate]
    rfl
  | case3 k w ws ih =>
    rw [List.flatten_cons, digitsValue_append, digitsValue_replicate, Nat.zero_mul, Nat.zero_add,
      ih (Nat.lt_of_succ_lt_succ hk) fun w hw => hpos w (List.mem_cons_of_mem _ hw)]
    rfl

/-- Two such lists with different digits in the same group are ordered by these. -/
theorem precedes_spike_iff (hne : (digitValue? d).getD 0 ≠ (digitValue? e).getD 0)
    (hus : k < us.length) (hvs : k < vs.length) :
    Precedes ((spike d k us).map digitsValue) ((spike e k vs).map digitsValue) ↔
      (digitValue? d).getD 0 < (digitValue? e).getD 0 := by
  induction k generalizing us vs with
  | zero =>
    cases us with
    | nil => cases hus
    | cons u us =>
      cases vs with
      | nil => cases hvs
      | cons v vs =>
        rw [spike, spike, List.map_cons, List.map_cons, precedes_cons, digitsValue_spike_head,
          digitsValue_spike_head]
        exact or_iff_left fun h => hne h.1
  | succ k ih =>
    cases us with
    | nil => cases hus
    | cons u us =>
      cases vs with
      | nil => cases hvs
      | cons v vs =>
        rw [spike, spike, List.map_cons, List.map_cons, precedes_cons, digitsValue_replicate,
          digitsValue_replicate, ih (Nat.lt_of_succ_lt_succ hus) (Nat.lt_of_succ_lt_succ hvs)]
        simp

end Spike

/-- Lists of positive numbers whose ends have equal sums are equal. -/
theorem eq_of_sum_drop {us vs : List Nat} (hus : ∀ w ∈ us, 0 < w) (hvs : ∀ w ∈ vs, 0 < w)
    (h : ∀ k ≤ us.length, k ≤ vs.length → (us.drop k).sum = (vs.drop k).sum) : us = vs := by
  induction us generalizing vs with
  | nil =>
    cases vs with
    | nil => rfl
    | cons v vs =>
      have hsum := h 0 (Nat.zero_le _) (Nat.zero_le _)
      have hv := hvs v List.mem_cons_self
      simp at hsum
      omega
  | cons u us ih =>
    cases vs with
    | nil =>
      have hsum := h 0 (Nat.zero_le _) (Nat.zero_le _)
      have hu := hus u List.mem_cons_self
      simp at hsum
      omega
    | cons v vs =>
      have hrest : us = vs := by
        refine ih (fun w hw => hus w (List.mem_cons_of_mem _ hw))
          (fun w hw => hvs w (List.mem_cons_of_mem _ hw)) fun k hk hk' => ?_
        exact h (k + 1) (Nat.succ_le_succ hk) (Nat.succ_le_succ hk')
      have hsum := h 0 (Nat.zero_le _) (Nat.zero_le _)
      subst hrest
      simp only [List.drop_zero, List.sum_cons] at hsum
      rw [Nat.add_right_cancel hsum]

theorem two_mul_pow_lt {m n : Nat} (h : m < n) : 2 * 10 ^ m < 1 * 10 ^ n := by
  have hle : 10 ^ (m + 1) ≤ 10 ^ n := Nat.pow_le_pow_right (by decide) h
  have hpos : 0 < 10 ^ m := Nat.pow_pos (by decide)
  rw [Nat.pow_succ] at hle
  omega

namespace Release

variable {r s : Release} {k : Nat}

theorem pos_of_mem_widths (r : Release) : ∀ w ∈ r.widths, 0 < w := by
  intro w hw
  obtain ⟨g, hg, rfl⟩ := List.mem_map.mp hw
  exact List.length_pos_of_ne_nil (r.group g hg).1

/-- The release with groups as wide as those of `r`, all zeros but for one digit. -/
def spiked (r : Release) (d : Char) (hd : isAsciiDigit d = true) (k : Nat) : Release where
  groups := spike d k r.widths
  letters := r.letters
  letter := r.letter
  groups_ne hnil := by
    have hwidths := map_length_spike r.pos_of_mem_widths d k
    rw [hnil] at hwidths
    exact r.groups_ne (List.map_eq_nil_iff.mp hwidths.symm)
  group g hg := by
    have hlength : g.length ∈ r.widths := by
      rw [← map_length_spike r.pos_of_mem_widths d k]
      exact List.mem_map_of_mem hg
    refine ⟨List.ne_nil_of_length_pos (r.pos_of_mem_widths _ hlength),
      List.all_eq_true.mpr fun c hc => ?_⟩
    rcases eq_of_mem_spike hg hc with rfl | rfl
    · rfl
    · exact hd
  length_le := by
    rw [List.length_flatten, map_length_spike r.pos_of_mem_widths, widths, ← List.length_flatten]
    exact r.length_le

theorem widths_spiked (r : Release) (d : Char) (hd : isAsciiDigit d = true) (k : Nat) :
    (r.spiked d hd k).widths = r.widths :=
  map_length_spike r.pos_of_mem_widths d k

theorem number_spiked (r : Release) (d : Char) (hd : isAsciiDigit d = true)
    (hk : k < r.widths.length) :
    (r.spiked d hd k).number = (digitValue? d).getD 0 * 10 ^ (r.widths.drop (k + 1)).sum :=
  digitsValue_spike hk r.pos_of_mem_widths d

/-- The numbers of all releases with groups as wide as those of `r` and `s` have their order. -/
def Ordered (r s : Release) : Prop :=
  ∀ r' s' : Release, r'.widths = r.widths → s'.widths = s.widths →
    (r'.number < s'.number ↔ Precedes r'.values s'.values)

/-- **Behind each group must stand equally many digits.** Else the digit behind which more of them
stand counts more, even if it is the smaller one. -/
theorem Ordered.sum_drop_eq (h : Ordered r s) (hr : k < r.widths.length)
    (hs : k < s.widths.length) :
    (r.widths.drop (k + 1)).sum = (s.widths.drop (k + 1)).sum := by
  rcases Nat.lt_trichotomy (r.widths.drop (k + 1)).sum (s.widths.drop (k + 1)).sum with
    hlt | heq | hgt
  · have hiff := h (r.spiked '2' rfl k) (s.spiked '1' rfl k) (r.widths_spiked _ _ _)
      (s.widths_spiked _ _ _)
    have hprecedes := precedes_spike_iff (d := '2') (e := '1') (by decide) hr hs
    rw [number_spiked r '2' rfl hr, number_spiked s '1' rfl hs] at hiff
    exact absurd (hprecedes.mp (hiff.mp (two_mul_pow_lt hlt))) (by decide)
  · exact heq
  · have hiff := h (r.spiked '1' rfl k) (s.spiked '2' rfl k) (r.widths_spiked _ _ _)
      (s.widths_spiked _ _ _)
    have hprecedes := precedes_spike_iff (d := '1') (e := '2') (by decide) hr hs
    rw [number_spiked r '1' rfl hr, number_spiked s '2' rfl hs] at hiff
    exact absurd (hiff.mpr (hprecedes.mpr (by decide))) (Nat.lt_asymm (two_mul_pow_lt hgt))

/-- **The groups must line up, or the numbers do not have the order of the releases**, for all
releases whose groups are as wide. -/
theorem alike_iff_ordered : r.Alike s ↔ Ordered r s := by
  constructor
  · intro h r' s' hr hs
    exact number_lt_iff_of_alike (by rwa [Alike, hr, hs])
  · intro h
    obtain ⟨u, us, hus⟩ : ∃ u us, r.widths = u :: us :=
      List.exists_cons_of_ne_nil (mt List.map_eq_nil_iff.mp r.groups_ne)
    obtain ⟨v, vs, hvs⟩ : ∃ v vs, s.widths = v :: vs :=
      List.exists_cons_of_ne_nil (mt List.map_eq_nil_iff.mp s.groups_ne)
    have hrpos := hus ▸ r.pos_of_mem_widths
    have hspos := hvs ▸ s.pos_of_mem_widths
    rw [Alike, hus, hvs, List.tail_cons, List.tail_cons]
    refine eq_of_sum_drop (fun w hw => hrpos w (List.mem_cons_of_mem _ hw))
      (fun w hw => hspos w (List.mem_cons_of_mem _ hw)) fun k hk hk' => ?_
    have hsum := h.sum_drop_eq (k := k) (by rw [hus]; exact Nat.lt_succ_of_le hk)
      (by rw [hvs]; exact Nat.lt_succ_of_le hk')
    rwa [hus, hvs] at hsum

end Release

end Dialogue
