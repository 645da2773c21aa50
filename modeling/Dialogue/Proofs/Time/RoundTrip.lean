import Dialogue.Proofs.Text.Numeral
import Dialogue.Time.Reading
import Mathlib.Data.List.GetD

/-!
# Timestamps that are read back

A timestamp is written in fields of a fixed number of digits, so each of them can be told from the
next one. What is written is read back, unless the zone is less than a second away from universal
time, which is read as no distance at all.

* `fixedDigits_padded`: a field of digits;
* `TimeOfDay.toText_cases`: how far a time of day is written; `readTimeOfDay_toText`: it is read
  back, in a timestamp or in a zone; `readZone_zoneText`: a zone;
* `readDate_toText`: a date;
* `Timestamp.IsReadable`: what may be in a timestamp; **`Timestamp.read_toText`**.
-/

namespace Dialogue.Time

open Text

variable {width n : Nat} {rest : Text} {next : Char}

/-! ## Fields -/

theorem isAsciiDigit_of_mem_padded {c : Char} (h : c ∈ padded width n) : isAsciiDigit c = true := by
  rcases List.mem_append.mp h with hzero | hdigit
  · rw [List.eq_of_mem_replicate hzero]
    rfl
  · have hdigit := Nat.isDigit_of_mem_toDigits (by decide) (by decide) hdigit
    exact hdigit

theorem padded_ne_nil (width n : Nat) : padded width n ≠ [] :=
  List.append_ne_nil_of_right_ne_nil _ Nat.toDigits_ne_nil

theorem length_padded (hwidth : 0 < width) (h : n < 10 ^ width) :
    (padded width n).length = width := by
  have hlength := (Nat.length_toDigits_le_iff (by decide) hwidth).mpr h
  rw [padded, List.length_append, List.length_replicate]
  omega

/-- The number that some digits write after others. -/
theorem fixedDigits_append {digits : Text} (h : ∀ c ∈ digits, isAsciiDigit c = true) (k : Nat)
    (rest : Text) :
    fixedDigits digits.length k (digits ++ rest) = some (Nat.ofDigitChars 10 digits k, rest) := by
  induction digits generalizing k with
  | nil => rfl
  | cons c digits ih =>
    obtain ⟨hc, hdigits⟩ := List.forall_mem_cons.mp h
    rw [List.length_cons, List.cons_append, fixedDigits, if_pos hc, ih hdigits]
    rfl

/-- **A field of digits is read back.** -/
theorem fixedDigits_padded (hwidth : 0 < width) (h : n < 10 ^ width) (rest : Text) :
    fixedDigits width 0 (padded width n ++ rest) = some (n, rest) := by
  have hzeros : ∀ k, Nat.ofDigitChars 10 (List.replicate k '0') 0 = 0 := by
    intro k
    induction k with
    | zero => rfl
    | succ k ih => exact ih
  have hvalue : Nat.ofDigitChars 10 (padded width n) 0 = n := by
    rw [padded, Nat.ofDigitChars_append, hzeros, Nat.ofDigitChars_ten_toDigits]
  have hdigits : ∀ c ∈ padded width n, isAsciiDigit c = true := fun _ => isAsciiDigit_of_mem_padded
  have hread := fixedDigits_append hdigits 0 rest
  rwa [length_padded hwidth h, hvalue] at hread

theorem exists_padded_two (h : n < 100) : ∃ a b, padded 2 n = [a, b] ∧ isAsciiDigit a = true := by
  obtain ⟨a, b, hab⟩ := List.length_eq_two.mp (length_padded (by decide) h)
  exact ⟨a, b, hab, isAsciiDigit_of_mem_padded (hab ▸ List.mem_cons_self)⟩

/-! ## Times of day -/

/-- The last field of a text. -/
theorem readFields_last (h : n < 100) (fields : Nat) (colons? : Option Bool) :
    readFields next (fields + 1) colons? (padded 2 n) = some ([n], .over (next ≠ '\x00')) := by
  have hfield : fixedDigits 2 0 (padded 2 n ++ []) = some (n, []) :=
    fixedDigits_padded (by decide) h []
  rw [List.append_nil] at hfield
  rw [readFields, hfield]

/-- A field that a colon stands behind, unless the fields before it had none. -/
theorem readFields_colon (h : n < 100) {fields : Nat} {colons? : Option Bool}
    (hcolons : colons?.getD true = true) {r : Text} (hr : r ≠ []) :
    readFields next (fields + 1) colons? (padded 2 n ++ ':' :: r) =
      (readFields next fields (some true) r).map fun (values, rest) => (n :: values, rest) := by
  obtain ⟨d, r, rfl⟩ := List.exists_cons_of_ne_nil hr
  rw [readFields, fixedDigits_padded (by decide) h]
  dsimp only
  have hsettled : colons?.getD (decide (':' = ':')) = true := by rwa [decide_eq_true rfl]
  rw [hsettled, if_pos ⟨rfl, rfl⟩]

/-- A field with a fraction behind it. -/
theorem readFields_fraction (h : n < 100) (fields : Nat) {r : Text} (hr : r ≠ []) :
    readFields next (fields + 1) (some true) (padded 2 n ++ '.' :: r) =
      some ([n], .fraction r) := by
  obtain ⟨d, r, rfl⟩ := List.exists_cons_of_ne_nil hr
  rw [readFields, fixedDigits_padded (by decide) h]
  dsimp only
  rw [if_neg (by simp), if_pos (.inl rfl)]

theorem readMicros_padded (h : n < 1000000) :
    readMicros next (padded 6 n) = some (n, decide (next ≠ '\x00')) := by
  have hlength : (padded 6 n).length = 6 := length_padded (by decide) h
  have hfield : fixedDigits 6 0 (padded 6 n ++ []) = some (n, []) :=
    fixedDigits_padded (by decide) h []
  rw [List.append_nil] at hfield
  rw [readMicros, hlength, Nat.min_self, hfield, Option.map_some, Nat.sub_self]
  simp

/-- A time of day is written to the minute, to the second or to the microsecond. -/
theorem TimeOfDay.toText_cases (t : TimeOfDay) (full : Bool) :
    (t.second = 0 ∧ t.micro = 0 ∧ t.toText full = padded 2 t.hour ++ ':' :: padded 2 t.minute) ∨
    (t.micro = 0 ∧ t.toText full =
      padded 2 t.hour ++ ':' :: (padded 2 t.minute ++ ':' :: padded 2 t.second)) ∨
    t.toText full = padded 2 t.hour ++ ':' :: (padded 2 t.minute ++
      ':' :: (padded 2 t.second ++ '.' :: padded 6 t.micro)) := by
  unfold toText
  by_cases hmicro : t.micro = 0
  · by_cases hshown : full = true ∨ t.second ≠ 0 ∨ t.micro ≠ 0
    · refine .inr (.inl ⟨hmicro, ?_⟩)
      rw [if_pos hshown, if_neg (not_not.mpr hmicro), List.append_nil, List.append_assoc,
        List.cons_append]
    · have hsecond : t.second = 0 := by
        by_contra hne
        exact hshown (.inr (.inl hne))
      refine .inl ⟨hsecond, hmicro, ?_⟩
      rw [if_neg hshown, if_neg (not_not.mpr hmicro), List.append_nil, List.append_nil]
  · refine .inr (.inr ?_)
    rw [if_pos (.inr (.inr hmicro)), if_pos hmicro]
    simp only [List.append_assoc, List.cons_append]

/-- **A time of day is read back.** -/
theorem readTimeOfDay_toText {t : TimeOfDay} (ht : t.isValid = true) (full : Bool) (next : Char) :
    readTimeOfDay next (t.toText full) = some (t, decide (next ≠ '\x00')) := by
  obtain ⟨⟨⟨hhour, hminute⟩, hsecond⟩, hmicro⟩ :
      ((t.hour < 24 ∧ t.minute < 60) ∧ t.second < 60) ∧ t.micro < 1000000 := by
    simpa [TimeOfDay.isValid] using ht
  have hne : ∀ v r, padded 2 v ++ r ≠ [] := fun v r =>
    List.append_ne_nil_of_left_ne_nil (padded_ne_nil 2 v) r
  unfold readTimeOfDay
  rcases t.toText_cases full with ⟨hnone, hwhole, htext⟩ | ⟨hwhole, htext⟩ | htext
  · rw [htext, readFields_colon (by omega) rfl (padded_ne_nil 2 _), readFields_last (by omega)]
    obtain ⟨hour, minute, second, micro⟩ := t
    obtain rfl : second = 0 := hnone
    obtain rfl : micro = 0 := hwhole
    rfl
  · rw [htext, readFields_colon (by omega) rfl (hne _ _),
      readFields_colon (by omega) rfl (padded_ne_nil 2 _), readFields_last (by omega)]
    obtain ⟨hour, minute, second, micro⟩ := t
    obtain rfl : micro = 0 := hwhole
    rfl
  · rw [htext, readFields_colon (by omega) rfl (hne _ _), readFields_colon (by omega) rfl (hne _ _),
      readFields_fraction (by omega) 0 (padded_ne_nil 6 _)]
    simp only [Option.map_some, Option.bind_eq_bind, Option.bind_some, readMicros_padded hmicro]
    rfl

/-- No character of a time of day opens a zone. -/
theorem opensZone_of_mem_toText {t : TimeOfDay} {full : Bool} {c : Char} (hc : c ∈ t.toText full) :
    opensZone c = false := by
  have hdigit : ∀ {width n}, c ∈ padded width n → opensZone c = false := by
    intro width n hmem
    have hascii := isAsciiDigit_of_mem_padded hmem
    rw [Bool.eq_false_iff]
    intro hopens
    have hcases : c = '+' ∨ c = '-' ∨ c = 'Z' := by simpa [opensZone, or_assoc] using hopens
    rcases hcases with rfl | rfl | rfl <;> cases hascii
  have hfield : ∀ {d width n}, opensZone d = false → c ∈ d :: padded width n →
      opensZone c = false := by
    intro d width n hd hmem
    rcases List.mem_cons.mp hmem with rfl | hmem
    · exact hd
    · exact hdigit hmem
  rw [TimeOfDay.toText, List.mem_append, List.mem_append, List.mem_append] at hc
  rcases hc with ((hc | hc) | hc) | hc
  · exact hdigit hc
  · exact hfield rfl hc
  · split at hc
    · exact hfield rfl hc
    · cases hc
  · split at hc
    · exact hfield rfl hc
    · cases hc

/-! ## Zones -/

theorem TimeOfDay.seconds_ofMicros (n : Nat) : (ofMicros n).seconds = n / 1000000 := by
  simp only [ofMicros, seconds]
  omega

theorem TimeOfDay.isValid_ofMicros (h : n < dayMicros) : (ofMicros n).isValid = true := by
  have hday : n < 86400000000 := h
  simp only [isValid, Bool.and_eq_true, decide_eq_true_eq]
  simp only [ofMicros]
  omega

/-- The zone is less than a day away from universal time, and a second at least if not at it. -/
def IsReadableZone (micros : Int) : Prop :=
  micros.natAbs < dayMicros ∧ (micros = 0 ∨ 1000000 ≤ micros.natAbs)

instance (micros : Int) : Decidable (IsReadableZone micros) :=
  inferInstanceAs (Decidable (micros.natAbs < dayMicros ∧ (micros = 0 ∨ 1000000 ≤ micros.natAbs)))

/-- **A zone is read back.** -/
theorem readZone_zoneText {micros : Int} (h : IsReadableZone micros) :
    readZone (zoneText micros) = some micros := by
  obtain ⟨hday, hsecond⟩ := h
  have hclock : readTimeOfDay '\x00' ((TimeOfDay.ofMicros micros.natAbs).toText false) =
      some (.ofMicros micros.natAbs, false) :=
    readTimeOfDay_toText (TimeOfDay.isValid_ofMicros hday) false '\x00'
  have hmicros : (if (TimeOfDay.ofMicros micros.natAbs).seconds = 0 then 0
      else 1000000 * ((TimeOfDay.ofMicros micros.natAbs).seconds : Int) +
        (TimeOfDay.ofMicros micros.natAbs).micro) = (micros.natAbs : Int) := by
    rw [TimeOfDay.seconds_ofMicros]
    simp only [TimeOfDay.ofMicros]
    split <;> omega
  unfold zoneText
  split
  · rename_i hneg
    rw [readZone, if_neg (by decide), hclock]
    dsimp only
    rw [hmicros, if_pos rfl]
    exact congrArg some (by omega)
  · rename_i hpos
    rw [readZone, if_neg (by decide), hclock]
    dsimp only
    rw [hmicros, if_neg (by decide)]
    exact congrArg some (by omega)

/-- What is written of a zone, if there is one. -/
def zoneSuffix (zone : Option Int) : Text :=
  match zone with
  | some micros => zoneText micros
  | none => []

/-- **A time of day is read back together with its zone.** -/
theorem readTime_toText {t : TimeOfDay} (ht : t.isValid = true) {zone : Option Int}
    (hzone : ∀ micros, zone = some micros → IsReadableZone micros) :
    readTime (t.toText true ++ zoneSuffix zone) = some (t, zone) := by
  have hclock : (t.toText true ++ zoneSuffix zone).takeWhile (fun c => !opensZone c) =
      t.toText true := by
    have hbefore : ∀ c ∈ t.toText true, (!opensZone c) = true :=
      fun c hc => by rw [opensZone_of_mem_toText hc, Bool.not_false]
    have hafter : (zoneSuffix zone).takeWhile (fun c => !opensZone c) = [] := by
      cases zone with
      | none => rfl
      | some micros =>
        rw [zoneSuffix, zoneText]
        split <;> rfl
    rw [List.takeWhile_append_of_pos hbefore, hafter, List.append_nil]
  unfold readTime
  dsimp only
  rw [hclock, List.drop_left, readTimeOfDay_toText ht]
  dsimp only
  cases zone with
  | none => rfl
  | some micros =>
    have hne : ¬ (zoneSuffix (some micros)).isEmpty = true := by simp [zoneSuffix, zoneText]
    rw [if_neg hne, zoneSuffix, readZone_zoneText (hzone micros rfl)]
    rfl

/-! ## Dates -/

theorem le_of_mem_monthLengths {year days : Nat} (h : days ∈ monthLengths year) : days ≤ 31 := by
  have hleap : (if isLeap year then 29 else 28) ≤ 31 := by split <;> decide
  simp only [monthLengths, List.mem_cons, List.not_mem_nil, or_false] at h
  omega

/-- What the calendar says of the parts of a date. -/
theorem Date.bounds {d : Date} (hd : d.isValid = true) :
    (1 ≤ d.year ∧ d.year ≤ 9999) ∧ (1 ≤ d.month ∧ d.month ≤ 12) ∧ 1 ≤ d.day ∧
      d.day ≤ d.monthLength ∧ d.monthLength ≤ 31 := by
  obtain ⟨⟨hyear, hday⟩, hday'⟩ :
      ((1 ≤ d.year ∧ d.year ≤ 9999) ∧ 1 ≤ d.day) ∧ d.day ≤ d.monthLength := by
    simpa [Date.isValid] using hd
  have hmonth : 1 ≤ d.month := by
    by_contra hzero
    rw [Date.monthLength, if_pos (by omega)] at hday'
    omega
  have hlength : d.monthLength = (monthLengths d.year).getD (d.month - 1) 0 := if_neg (by omega)
  have hmonth' : d.month - 1 < (monthLengths d.year).length := by
    by_contra hover
    rw [hlength, List.getD_eq_default _ _ (Nat.le_of_not_lt hover)] at hday'
    omega
  have hdays : d.monthLength ≤ 31 := by
    rw [hlength, List.getD_eq_getElem _ _ hmonth']
    exact le_of_mem_monthLengths (List.getElem_mem hmonth')
  have hmonths : (monthLengths d.year).length = 12 := rfl
  exact ⟨hyear, ⟨hmonth, by omega⟩, hday, hday', hdays⟩

/-- **A date is read back.** -/
theorem readDate_toText {d : Date} (hd : d.isValid = true) (room : Nat) (rest : Text) :
    readDate room (d.toText ++ rest) = some d := by
  obtain ⟨⟨-, hyear⟩, ⟨-, hmonth⟩, -, hday, hlength⟩ := Date.bounds hd
  obtain ⟨m, m', hdigits, hm⟩ := exists_padded_two (n := d.month) (by omega)
  have htext : d.toText ++ rest =
      padded 4 d.year ++ '-' :: (padded 2 d.month ++ '-' :: (padded 2 d.day ++ rest)) := by
    simp only [Date.toText, List.append_assoc, List.cons_append]
  have hyears : ∀ r, fixedDigits 4 0 (padded 4 d.year ++ r) = some (d.year, r) :=
    fixedDigits_padded (by decide) (by omega)
  have hmonths : ∀ r, fixedDigits 2 0 (padded 2 d.month ++ r) = some (d.month, r) :=
    fixedDigits_padded (by decide) (by omega)
  have hdays : fixedDigits 2 0 (padded 2 d.day ++ rest) = some (d.day, rest) :=
    fixedDigits_padded (by decide) (by omega) rest
  have hweek : ¬ (padded 2 d.month ++ '-' :: (padded 2 d.day ++ rest)).head? = some 'W' := by
    rw [hdigits, List.cons_append, List.head?_cons]
    rintro ⟨⟩
    cases hm
  rw [htext, readDate, hyears]
  simp only [Option.bind_eq_bind, Option.bind_some, List.head?_cons, afterDash, decide_true, if_pos,
    List.drop_succ_cons, List.drop_zero, hweek, hmonths, hdays]
  exact if_neg not_false

/-- The date of a timestamp takes ten characters. -/
theorem dateLength_toText {d : Date} (hd : d.isValid = true) (rest : Text) :
    d.toText.length = 10 ∧ dateLength (d.toText ++ 'T' :: rest) = 10 := by
  obtain ⟨⟨-, hyear⟩, ⟨-, hmonth⟩, -, hday, hlength⟩ := Date.bounds hd
  have hyears : (padded 4 d.year).length = 4 := length_padded (by decide) (by omega)
  obtain ⟨y, r, hyear⟩ := List.exists_cons_of_length_eq_add_one hyears
  rw [hyear, List.length_cons, Nat.add_right_cancel_iff] at hyears
  obtain ⟨y₂, y₃, y₄, rfl⟩ := List.length_eq_three.mp hyears
  obtain ⟨m, m', hmonth, hm⟩ := exists_padded_two (n := d.month) (by omega)
  obtain ⟨n, n', hday, -⟩ := exists_padded_two (n := d.day) (by omega)
  have htext : d.toText = [y, y₂, y₃, y₄, '-', m, m', '-', n, n'] := by
    rw [Date.toText, hyear, hmonth, hday]
    rfl
  have hweek : m ≠ 'W' := by
    rintro rfl
    cases hm
  rw [htext]
  refine ⟨rfl, ?_⟩
  rw [dateLength]
  simp [hweek]

namespace Timestamp

/-- The timestamp is in the calendar and its zone can be told from none. -/
structure IsReadable (t : Timestamp) : Prop where
  date : t.date.isValid = true
  time : t.time.isValid = true
  zone : ∀ micros, t.zone = some micros → IsReadableZone micros

theorem toText_eq (t : Timestamp) :
    t.toText = t.date.toText ++ 'T' :: (t.time.toText true ++ zoneSuffix t.zone) := by
  rw [toText, List.append_assoc]
  rfl

theorem check_eq {t : Timestamp} (h : t.IsReadable) : t.check = .ok t := by
  obtain ⟨⟨hyear, hyear'⟩, ⟨hmonth, hmonth'⟩, hday, hday', -⟩ := Date.bounds h.date
  obtain ⟨⟨⟨hhour, hminute⟩, hsecond⟩, -⟩ :
      ((t.time.hour < 24 ∧ t.time.minute < 60) ∧ t.time.second < 60) ∧ t.time.micro < 1000000 := by
    simpa [TimeOfDay.isValid] using h.time
  have hzone : ¬ dayMicros ≤ (t.zone.getD 0).natAbs := by
    cases hz : t.zone with
    | none => decide
    | some micros => exact Nat.not_le_of_lt (h.zone micros hz).1
  rw [check, if_neg hzone, if_neg (by omega), if_neg (by omega), if_neg (by omega),
    if_neg (by omega), if_neg (by omega), if_neg (by omega)]

/-- A text has no halves of surrogate pairs. -/
theorem separated_ofText (t : Text) : separated (Codes.ofText t) = Codes.ofText t := by
  have hwhole : ∀ place : Nat,
      ((Codes.ofText t)[place]?.any fun code => (Codes.char? code).isNone) = false := by
    intro place
    rw [Codes.ofText, List.getElem?_map]
    cases t[place]? with
    | none => rfl
    | some c => simp [Codes.char?_toNat]
  unfold separated
  simp [hwhole]

/-- **A timestamp is read back.** -/
theorem read_toText {t : Timestamp} (h : t.IsReadable) : read (Codes.ofText t.toText) = .ok t := by
  have hparts : readParts t.toText = some t := by
    obtain ⟨hlength, hten⟩ := dateLength_toText h.date (t.time.toText true ++ zoneSuffix t.zone)
    have hdate := readDate_toText h.date 10 ('T' :: (t.time.toText true ++ zoneSuffix t.zone))
    have hclock := readTime_toText h.time h.zone
    rw [toText_eq, readParts]
    dsimp only
    have hdrop : (t.date.toText ++ 'T' :: (t.time.toText true ++ zoneSuffix t.zone)).drop (10 + 1) =
        t.time.toText true ++ zoneSuffix t.zone := by
      rw [← hlength, List.drop_length_add_append]
      rfl
    rw [hten, hdate, Option.bind_eq_bind, Option.bind_some, hdrop, hclock, if_pos]
    · rfl
    · rw [List.length_append, hlength, List.length_cons]
      omega
  simp only [read, separated_ofText, Codes.toText?_ofText, Option.bind_eq_bind, Option.bind_some,
    hparts, check_eq h]

end Timestamp

end Dialogue.Time
