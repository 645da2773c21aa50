import Dialogue.Proofs.Script.Tokens

/-!
# Where a bracket content is cut

A comma counts where it is not escaped and the double quotes before it that are not escaped are even
in number. The scan for one character and the splitting of the whole content both cut there and
nowhere else: the first comma that counts is the one that is found, and behind it the content goes
on as if it began there.

* `CountsAt`: where a character counts, said by what stands before it, without the scan
  (`countsAt_iff`, `findFrom_eq_none_iff`);
* `cut_induction`: a content is whole, or a whole piece, a comma and another content;
* `topCommas`, `segments`: the commas that count, and the stretches of the content between them;
* **`splitParams_cuts`**: the tokens are the trimmed segments, and each character is in one segment
  or is one of the commas.
-/

namespace Dialogue.Script

open Text Mode

variable {c target : Char} {m : Mode} {a b t u : Text} {i : Nat}

/-! ## Where a character counts -/

/-- How many double quotes of the text are not escaped. -/
def quotesIn (t : Text) : Nat :=
  (List.range t.length).countP fun i => t[i]? = some '"' ∧ ¬ EndsOdd (t.take i)

/-- The character stands at the place, not escaped, behind an even number of double quotes that are
not escaped. -/
def CountsAt (c : Char) (t : Text) (i : Nat) : Prop :=
  t[i]? = some c ∧ ¬ EndsOdd (t.take i) ∧ quotesIn (t.take i) % 2 = 0

instance (c : Char) (t : Text) (i : Nat) : Decidable (CountsAt c t i) :=
  inferInstanceAs (Decidable (_ ∧ _))

theorem quotesIn_concat (t : Text) (c : Char) :
    quotesIn (t ++ [c]) = quotesIn t + if c = '"' ∧ ¬ EndsOdd t then 1 else 0 := by
  have hbefore : (List.range t.length).countP
      (fun i => (t ++ [c])[i]? = some '"' ∧ ¬ EndsOdd ((t ++ [c]).take i)) = quotesIn t := by
    refine List.countP_congr fun i hi => ?_
    rw [List.mem_range] at hi
    rw [List.getElem?_append_left hi, List.take_append_of_le_length (Nat.le_of_lt hi)]
  rw [quotesIn, List.length_append, List.length_singleton, List.range_succ, List.countP_append,
    hbefore]
  simp [List.countP_cons]

namespace Mode

/-- **The scan is inside a string after an odd number of double quotes** that are not escaped. -/
theorem inQuotes_after (t : Text) : (start.after t).inQuotes = true ↔ quotesIn t % 2 = 1 := by
  induction t using List.reverseRecOn with
  | nil => simp [start, quotesIn]
  | append_singleton t c ih =>
    rw [after_append, after_cons, after_nil, quotesIn_concat]
    by_cases hturn : c = '"' ∧ ¬ EndsOdd t
    · obtain ⟨rfl, hodd⟩ := hturn
      have hescaped : (start.after t).escaped = false :=
        eq_false_of_ne_true (mt (escaped_after rfl t).mp hodd)
      have hflip : ((start.after t).next '"').inQuotes = !(start.after t).inQuotes := by
        simp [next, hescaped]
      rw [hflip, if_pos ⟨rfl, hodd⟩, Bool.not_eq_true', ← Bool.not_eq_true, ih]
      omega
    · have hsame : ((start.after t).next c).inQuotes = (start.after t).inQuotes := by
        rw [not_and, not_not] at hturn
        unfold next
        split_ifs with hescaped hslash hquote
        · rfl
        · rfl
        · exact absurd ((escaped_after rfl t).mpr (hturn hquote)) hescaped
        · rfl
      rw [hsame, if_neg hturn, ih, Nat.add_zero]

theorem start_after_iff (t : Text) :
    start.after t = start ↔ ¬ EndsOdd t ∧ quotesIn t % 2 = 0 := by
  have hquotes := inQuotes_after t
  have hescaped := escaped_after (m := start) rfl t
  constructor
  · intro h
    rw [h] at hquotes hescaped
    exact ⟨fun hodd => Bool.false_ne_true (hescaped.mpr hodd), by
      have heven := mt hquotes.mpr Bool.false_ne_true
      omega⟩
  · rintro ⟨hodd, heven⟩
    exact start_after_eq (eq_false_of_ne_true fun hin => by
      have hone := hquotes.mp hin
      omega) hodd

end Mode

/-- A character counts where it stands and the scan is as it was at the start. -/
theorem countsAt_iff : CountsAt c t i ↔ t[i]? = some c ∧ start.after (t.take i) = start := by
  rw [CountsAt, start_after_iff]

theorem countsAt_append_left (hi : i < a.length) : CountsAt c (a ++ u) i ↔ CountsAt c a i := by
  rw [CountsAt, CountsAt, List.getElem?_append_left hi,
    List.take_append_of_le_length (Nat.le_of_lt hi)]

/-- Behind a text that leaves the scan as it was, a character counts where it would without it. -/
theorem countsAt_append_right (hafter : start.after a = start) (u : Text) (i : Nat) :
    CountsAt c (a ++ u) (a.length + i) ↔ CountsAt c u i := by
  rw [countsAt_iff, countsAt_iff, List.getElem?_append_right (Nat.le_add_right _ _),
    Nat.add_sub_cancel_left, List.take_length_add_append, after_append, hafter]

/-- **A search comes to nothing exactly when the character stands nowhere outside strings.** -/
theorem findFrom_eq_none_iff (hslash : target ≠ '\\') (hquote : target ≠ '"') :
    findFrom target m t = none ↔ ∀ i, t[i]? = some target → m.after (t.take i) ≠ start := by
  induction t generalizing m with
  | nil => simp [findFrom]
  | cons c r ih =>
    rw [findFrom]
    split_ifs with hc
    · refine iff_of_false not_false fun h => h 0 (congrArg some hc.2.2.2) (isTop_iff.mp hc.1)
    · rw [Option.map_eq_none_iff, ih]
      constructor
      · intro h i hi
        cases i with
        | zero =>
          obtain rfl := Option.some.inj hi
          exact fun htop => hc ⟨isTop_iff.mpr htop, hslash, hquote, rfl⟩
        | succ i => exact h i hi
      · exact fun h i hi => h (i + 1) hi

theorem findTopLevel_eq_none_iff (hslash : target ≠ '\\') (hquote : target ≠ '"') :
    findTopLevel t target = none ↔ ∀ i, ¬ CountsAt target t i := by
  rw [findTopLevel, findFrom_eq_none_iff hslash hquote]
  exact forall_congr' fun i => by rw [countsAt_iff, not_and]

/-! ## Cutting -/

/-- **A content in which no comma counts is whole; any other is a whole piece that leaves the scan
as it was, a comma, and a shorter content.** -/
theorem cut_induction {P : Text → Prop} (whole : ∀ t, findTopLevel t ',' = none → P t)
    (cut : ∀ a b, findTopLevel a ',' = none → start.after a = start → P b → P (a ++ ',' :: b))
    (t : Text) : P t := by
  induction hlen : t.length using Nat.strong_induction_on generalizing t with
  | _ n ih =>
    cases hfind : findTopLevel t ',' with
    | none => exact whole t hfind
    | some i =>
      obtain ⟨a, b, rfl, -, hnone, hafter⟩ := findFrom_eq_some hfind
      refine cut a b hnone hafter (ih b.length ?_ b rfl)
      rw [← hlen, List.length_append, List.length_cons]
      omega

theorem splitParams_whole (hnone : findTopLevel t ',' = none) :
    splitParams t = if trim t = [] then [] else [trim t] := by
  rw [splitParams, piecesFrom_whole hnone, List.map_singleton, dropEmptyEnd]

/-- The places of the commas that count. -/
def topCommas (t : Text) : List Nat := (List.range t.length).filter fun i => CountsAt ',' t i

theorem mem_topCommas_iff : i ∈ topCommas t ↔ CountsAt ',' t i := by
  rw [topCommas, List.mem_filter, List.mem_range, decide_eq_true_eq, and_iff_right_iff_imp]
  exact fun h => (List.getElem?_eq_some_iff.mp h.1).1

theorem pairwise_topCommas (t : Text) : (topCommas t).Pairwise (· < ·) :=
  List.pairwise_lt_range.filter _

theorem topCommas_whole (hnone : findTopLevel t ',' = none) : topCommas t = [] :=
  List.eq_nil_iff_forall_not_mem.mpr fun i hi =>
    (findTopLevel_eq_none_iff (by decide) (by decide)).mp hnone i (mem_topCommas_iff.mp hi)

section Cut

variable (hnone : findTopLevel a ',' = none) (hafter : start.after a = start)

include hnone hafter

theorem findTopLevel_cut (b : Text) : findTopLevel (a ++ ',' :: b) ',' = some a.length := by
  rw [findTopLevel, findFrom_append hnone, hafter]
  simp [findFrom, isTop, start]

theorem piecesFrom_cut (b : Text) :
    piecesFrom start (a ++ ',' :: b) = a :: piecesFrom start b := by
  rw [piecesFrom_append hnone, hafter, piecesFrom_comma rfl, List.modifyHead_cons, List.append_nil]

theorem splitParams_cut (b : Text) : splitParams (a ++ ',' :: b) = trim a :: splitParams b := by
  obtain ⟨p, ps, hp⟩ := exists_piecesFrom_eq_cons start b
  rw [splitParams, splitParams, piecesFrom_cut hnone hafter, hp]
  rfl

/-- Behind a comma that counts the others are where they are in the rest. -/
theorem topCommas_cut (b : Text) :
    topCommas (a ++ ',' :: b) = a.length :: (topCommas b).map (a.length + 1 + ·) := by
  have hcomma : start.after (a ++ [',']) = start := by
    rw [after_append, hafter]
    rfl
  have hlen : (a ++ ',' :: b).length = a.length + 1 + b.length := by
    rw [List.length_append, List.length_cons]
    omega
  have hbefore : (List.range a.length).filter (fun i => CountsAt ',' (a ++ ',' :: b) i) = [] := by
    refine List.filter_eq_nil_iff.mpr fun i hi => ?_
    rw [decide_eq_true_eq, countsAt_append_left (List.mem_range.mp hi)]
    exact (findTopLevel_eq_none_iff (by decide) (by decide)).mp hnone i
  have hthere : [a.length].filter (fun i => CountsAt ',' (a ++ ',' :: b) i) = [a.length] := by
    have hfirst : CountsAt ',' (',' :: b) 0 := countsAt_iff.mpr ⟨rfl, rfl⟩
    have hcounts := (countsAt_append_right hafter _ 0).mpr hfirst
    exact List.filter_eq_self.mpr (List.forall_mem_singleton.mpr (decide_eq_true hcounts))
  have hbehind : ∀ i, CountsAt ',' (a ++ ',' :: b) (a.length + 1 + i) ↔ CountsAt ',' b i := by
    intro i
    rw [← countsAt_append_right hcomma b i, List.length_append, List.append_assoc]
    rfl
  rw [topCommas, hlen, List.range_add, List.range_succ, List.filter_append, List.filter_append,
    hbefore, hthere, List.filter_map, topCommas]
  simp only [List.nil_append, List.singleton_append, Function.comp_def, hbehind]

end Cut

/-! ## Segments -/

/-- The stretches that cuts leave between two places, each with its first place and the one behind
its last. -/
def stretches (first stop : Nat) : List Nat → List (Nat × Nat)
  | [] => [(first, stop)]
  | i :: cuts => (first, i) :: stretches (i + 1) stop cuts

/-- The stretches between the commas that count. -/
def segments (t : Text) : List (Nat × Nat) := stretches 0 t.length (topCommas t)

/-- The text of a stretch. -/
def slice (t : Text) (s : Nat × Nat) : Text := (t.take s.2).drop s.1

theorem stretches_shift (k first stop : Nat) (cuts : List Nat) :
    stretches (k + first) (k + stop) (cuts.map (k + ·)) =
      (stretches first stop cuts).map fun s => (k + s.1, k + s.2) := by
  induction cuts generalizing first with
  | nil => rfl
  | cons i cuts ih =>
    rw [List.map_cons, stretches, Nat.add_assoc, ih]
    rfl

/-- **A place is in one stretch or is a cut.** -/
theorem countP_stretches {cuts : List Nat} {first stop : Nat} (hsorted : cuts.Pairwise (· < ·))
    (hbounds : ∀ i ∈ cuts, first ≤ i ∧ i < stop) (k : Nat) :
    (stretches first stop cuts).countP (fun s => s.1 ≤ k ∧ k < s.2) =
      if first ≤ k ∧ k < stop ∧ k ∉ cuts then 1 else 0 := by
  induction cuts generalizing first with
  | nil => simp [stretches, List.countP_cons]
  | cons i cuts ih =>
    obtain ⟨hbelow, hrest⟩ := List.pairwise_cons.mp hsorted
    obtain ⟨⟨hfirst, hstop⟩, hcuts⟩ := List.forall_mem_cons.mp hbounds
    rw [stretches, List.countP_cons, ih hrest fun j hj => ⟨hbelow j hj, (hcuts j hj).2⟩]
    have hnot : k ≤ i → k ∉ cuts := fun hle hk => Nat.not_lt.mpr hle (hbelow k hk)
    by_cases hk : k ∈ cuts
    · have hlt := hbelow k hk
      simp [hk]
      omega
    · simp only [hk, List.mem_cons, or_false, not_false_eq_true, and_true, decide_eq_true_eq]
      split_ifs <;> omega

theorem slice_append_right (a u : Text) (s : Nat × Nat) :
    slice (a ++ u) (a.length + s.1, a.length + s.2) = slice u s := by
  rw [slice, List.take_length_add_append, List.drop_length_add_append, slice]

/-- **The segments are the pieces of the splitting.** -/
theorem map_slice_segments (t : Text) : (segments t).map (slice t) = piecesFrom start t := by
  induction t using cut_induction with
  | whole t hnone =>
    rw [segments, topCommas_whole hnone, piecesFrom_whole hnone]
    simp [stretches, slice]
  | cut a b hnone hafter ih =>
    have hsplit : a ++ ',' :: b = (a ++ [',']) ++ b := by rw [List.append_assoc]; rfl
    have hlen : (a ++ [',']).length = a.length + 1 := List.length_append
    have hshift := stretches_shift (a.length + 1) 0 b.length (topCommas b)
    have hsegments : segments (a ++ ',' :: b) =
        (0, a.length) :: (segments b).map fun s => (a.length + 1 + s.1, a.length + 1 + s.2) := by
      rw [segments, topCommas_cut hnone hafter, stretches, hsplit, List.length_append, hlen]
      exact congrArg _ hshift
    have hfirst : slice (a ++ ',' :: b) (0, a.length) = a := by
      rw [slice, List.take_left' rfl, List.drop_zero]
    have hrest : ∀ s : Nat × Nat,
        slice (a ++ ',' :: b) (a.length + 1 + s.1, a.length + 1 + s.2) = slice b s := by
      intro s
      rw [hsplit, ← hlen, slice_append_right]
    rw [hsegments, piecesFrom_cut hnone hafter, ← ih, List.map_cons, List.map_map, hfirst]
    exact congrArg _ (List.map_congr_left fun s _ => hrest s)

theorem drop_cut (a b : Text) (i : Nat) : (a ++ ',' :: b).drop (a.length + (i + 1)) = b.drop i := by
  rw [List.drop_length_add_append, List.drop_succ_cons]

/-- The text behind the last comma that counts; all of it when there is none. -/
def lastSegment (t : Text) : Text := t.drop (((topCommas t).getLast?.map (· + 1)).getD 0)

theorem lastSegment_cut (hnone : findTopLevel a ',' = none) (hafter : start.after a = start)
    (b : Text) : lastSegment (a ++ ',' :: b) = lastSegment b := by
  rw [lastSegment, lastSegment, topCommas_cut hnone hafter, List.getLast?_cons, List.getLast?_map]
  cases (topCommas b).getLast? with
  | none => exact drop_cut a b 0
  | some i =>
    have hplace : a.length + 1 + i + 1 = a.length + (i + 1 + 1) := by omega
    change (a ++ ',' :: b).drop (a.length + 1 + i + 1) = b.drop (i + 1)
    rw [hplace, drop_cut]

/-- **There are as many tokens as commas that count, and one more unless it would be blank.** -/
theorem length_splitParams (t : Text) : (splitParams t).length =
    (topCommas t).length + if trim (lastSegment t) = [] then 0 else 1 := by
  induction t using cut_induction with
  | whole t hnone =>
    rw [splitParams_whole hnone, lastSegment, topCommas_whole hnone]
    change _ = 0 + if trim t = [] then 0 else 1
    split_ifs <;> rfl
  | cut a b hnone hafter ih =>
    rw [splitParams_cut hnone hafter, topCommas_cut hnone hafter, lastSegment_cut hnone hafter,
      List.length_cons, ih, List.length_cons, List.length_map]
    omega

/-- **A bracket content is cut at the commas that count, and nowhere else.** When the search finds
none, the content is one token, or none if it is blank. When it finds one, the text before it is the
first token and the text behind it gives the others. The comma that is found is the first one that
counts; the tokens are the trimmed segments, without a blank last one; each character is in one
segment, or is a comma that counts; and there is a token for each of these commas and one more
unless the text behind the last of them is blank. -/
theorem splitParams_cuts (t : Text) :
    (findTopLevel t ',' = none → splitParams t = if trim t = [] then [] else [trim t]) ∧
    (∀ i, findTopLevel t ',' = some i →
      splitParams t = trim (t.take i) :: splitParams (t.drop (i + 1))) ∧
    findTopLevel t ',' = (topCommas t).head? ∧
    splitParams t = dropEmptyEnd ((segments t).map fun s => trim (slice t s)) ∧
    (∀ k, (segments t).countP (fun s => s.1 ≤ k ∧ k < s.2) =
      if k < t.length ∧ ¬ CountsAt ',' t k then 1 else 0) ∧
    (splitParams t).length = (topCommas t).length + if trim (lastSegment t) = [] then 0 else 1 := by
  refine ⟨splitParams_whole, fun i hi => ?_, ?_, ?_, fun k => ?_, length_splitParams t⟩
  · obtain ⟨a, b, rfl, rfl, hnone, hafter⟩ := findFrom_eq_some hi
    rw [splitParams_cut hnone hafter, List.take_left' rfl, drop_cut a b 0, List.drop_zero]
  · induction t using cut_induction with
    | whole t hnone => rw [hnone, topCommas_whole hnone, List.head?_nil]
    | cut a b hnone hafter _ =>
      rw [findTopLevel_cut hnone hafter, topCommas_cut hnone hafter, List.head?_cons]
  · rw [splitParams, ← map_slice_segments, List.map_map]
    rfl
  · have hbounds : ∀ i ∈ topCommas t, 0 ≤ i ∧ i < t.length := fun i hi =>
      ⟨Nat.zero_le i, (List.getElem?_eq_some_iff.mp (mem_topCommas_iff.mp hi).1).1⟩
    rw [segments, countP_stretches (pairwise_topCommas t) hbounds]
    simp only [Nat.zero_le, true_and, mem_topCommas_iff]

/-- A content with an escaped comma, one inside a string, an empty token and a blank tail. -/
def ragged : Text := ofString "one\\, two , \"a, b\",, "

theorem splitParams_cuts_ragged :
    findTopLevel ragged ',' = some 10 ∧ topCommas ragged = [10, 18, 19] ∧
    splitParams ragged = trim (ragged.take 10) :: splitParams (ragged.drop 11) ∧
    findTopLevel (ragged.take 10) ',' = none ∧
    splitParams (ragged.take 10) = [ofString "one\\, two"] := by
  have hfind : findTopLevel ragged ',' = some 10 := by decide
  have hcommas : topCommas ragged = [10, 18, 19] := by decide +kernel
  have hnone : findTopLevel (ragged.take 10) ',' = none := by decide
  have hwhole := (splitParams_cuts (ragged.take 10)).1 hnone
  exact ⟨hfind, hcommas, (splitParams_cuts ragged).2.1 10 hfind, hnone, hwhole⟩

end Dialogue.Script
