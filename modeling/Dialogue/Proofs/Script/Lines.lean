import Dialogue.Proofs.Script.Command

/-!
# What the lines of a script give

Every reader of a script goes through its lines in order and keeps, of what a line gives, the number
of that line. So what belongs to one line can be told from the rest, and nothing is out of order.

* `gather`: what numbered lines give, one after the other (`mem_gather_iff`);
* **`filter_gather`**: what has the number of a line is what that line gives;
* **`pairwise_gather`**: if a line gives one thing at most, what is given stands on different lines,
  in their order;
* `gather_congr`: lines of the same number that give the same;
* `splitLines_append_feed`, `splitLines_joinWith`: lines that are put together are read back;
* `parseLines_eq_gather`, `filter_parse`, `pairwise_parse`: the statements of a script.
-/

namespace Dialogue.Script

open Text

variable {α : Type} {g : Nat → Text → List α} {line : α → Int} {marks lines : List Text}
  {first i : Nat} {raw source : Text}

/-- What lines numbered from `first` give, one after the other. -/
def gather (g : Nat → Text → List α) (first : Nat) : List Text → List α
  | [] => []
  | raw :: rest => g first raw ++ gather g (first + 1) rest

theorem mem_gather_iff {a : α} :
    a ∈ gather g first lines ↔ ∃ i raw, lines[i]? = some raw ∧ a ∈ g (first + i) raw := by
  induction lines generalizing first with
  | nil => simp [gather]
  | cons raw rest ih =>
    rw [gather, List.mem_append, ih]
    constructor
    · rintro (h | ⟨i, raw', hraw, h⟩)
      · exact ⟨0, raw, rfl, h⟩
      · exact ⟨i + 1, raw', hraw, by rwa [show first + (i + 1) = first + 1 + i by omega]⟩
    · rintro ⟨i, raw', hraw, h⟩
      cases i with
      | zero =>
        obtain rfl := Option.some.inj hraw
        exact .inl h
      | succ i => exact .inr ⟨i, raw', hraw, by rwa [show first + 1 + i = first + (i + 1) by omega]⟩

/-! ## What belongs to a line -/

/-- The number of a line is at least that of the first one. -/
theorem le_of_mem_gather (hline : ∀ i raw, ∀ a ∈ g i raw, line a = i) {a : α}
    (ha : a ∈ gather g first lines) : (first : Int) ≤ line a := by
  obtain ⟨i, raw, -, hmem⟩ := mem_gather_iff.mp ha
  rw [hline _ _ a hmem]
  omega

/-- **What has the number of a line is what that line gives.** -/
theorem filter_gather (line : α → Int) (hline : ∀ i raw, ∀ a ∈ g i raw, line a = i) (first : Nat)
    (hraw : lines[i]? = some raw) :
    (gather g first lines).filter (fun a => line a = (first + i : Nat)) = g (first + i) raw := by
  induction lines generalizing first i with
  | nil => cases hraw
  | cons raw' rest ih =>
    rw [gather, List.filter_append]
    cases i with
    | zero =>
      obtain rfl := Option.some.inj hraw
      have hfirst : (g first raw').filter (fun a => line a = (first + 0 : Nat)) = g first raw' :=
        List.filter_eq_self.mpr fun a ha => decide_eq_true (hline first raw' a ha)
      have hrest : (gather g (first + 1) rest).filter
          (fun a => line a = (first + 0 : Nat)) = [] := by
        refine List.filter_eq_nil_iff.mpr fun a ha => ?_
        have hle := le_of_mem_gather hline ha
        simp only [decide_eq_true_eq]
        omega
      rw [hfirst, hrest, List.append_nil]
      rfl
    | succ i =>
      have hfirst : (g first raw').filter (fun a => line a = (first + (i + 1) : Nat)) = [] := by
        refine List.filter_eq_nil_iff.mpr fun a ha => ?_
        rw [hline first raw' a ha, decide_eq_true_eq]
        omega
      have hrest := ih (first + 1) hraw
      rw [show first + 1 + i = first + (i + 1) by omega] at hrest
      rw [hfirst, hrest, List.nil_append]

/-- **If a line gives one thing at most, what is given stands on different lines**, in their
order. -/
theorem pairwise_gather (hline : ∀ i raw, ∀ a ∈ g i raw, line a = i)
    (hone : ∀ i raw, (g i raw).length ≤ 1) (first : Nat) (lines : List Text) :
    (gather g first lines).Pairwise fun a b => line a < line b := by
  induction lines generalizing first with
  | nil => exact .nil
  | cons raw rest ih =>
    rw [gather, List.pairwise_append]
    refine ⟨?_, ih (first + 1), fun a ha b hb => ?_⟩
    · cases hg : g first raw with
      | nil => exact .nil
      | cons a r =>
        have hlen := hone first raw
        rw [hg, List.length_cons] at hlen
        obtain rfl : r = [] := List.eq_nil_of_length_eq_zero (by omega)
        exact List.pairwise_singleton _ a
    · have hle := le_of_mem_gather hline hb
      rw [hline first raw a ha]
      omega

/-- What two lists of lines give is the same if lines of the same number give the same. -/
theorem gather_congr {g' : Nat → Text → List α} {lines' : List Text}
    (hlength : lines'.length = lines.length)
    (h : ∀ i raw raw', lines[i]? = some raw → lines'[i]? = some raw' →
      g' (first + i) raw' = g (first + i) raw) :
    gather g' first lines' = gather g first lines := by
  induction lines generalizing first lines' with
  | nil => rw [List.eq_nil_of_length_eq_zero hlength, gather, gather]
  | cons raw rest ih =>
    obtain ⟨raw', rest', rfl⟩ := List.exists_cons_of_length_eq_add_one hlength
    have hrest : gather g' (first + 1) rest' = gather g (first + 1) rest :=
      ih (Nat.succ.inj hlength) fun i s s' hs hs' => by
        rw [show first + 1 + i = first + (i + 1) by omega]
        exact h (i + 1) s s' hs hs'
    have hfirst : g' first raw' = g first raw := h 0 raw raw' rfl rfl
    rw [gather, gather, hfirst, hrest]

/-- A function done to all that lines give is done to what each of them gives. -/
theorem filterMap_gather {β : Type} (f : α → Option β) (g : Nat → Text → List α) (first : Nat)
    (lines : List Text) : (gather g first lines).filterMap f =
      gather (fun i raw => (g i raw).filterMap f) first lines := by
  induction lines generalizing first with
  | nil => rfl
  | cons raw rest ih => rw [gather, gather, List.filterMap_append, ih]

/-! ## The lines of a text -/

/-- A text without a line feed is one line. -/
theorem splitLines_of_not_mem (h : '\n' ∉ raw) : splitLines raw = [raw] := by
  induction raw with
  | nil => rfl
  | cons c r ih =>
    obtain ⟨hc, hr⟩ := List.ne_and_not_mem_of_not_mem_cons h
    have hfeed : r.head? ≠ some '\n' := fun hhead => hr (List.mem_of_head? hhead)
    rw [splitLines, if_neg hc.symm, if_neg fun hreturn => hfeed hreturn.2, ih hr, consHead]

/-- A line ends at its first line feed, unless a carriage return stands before that. -/
theorem splitLines_append_feed (hfeed : '\n' ∉ raw) (hreturn : raw.getLast? ≠ some '\r')
    (r : Text) : splitLines (raw ++ '\n' :: r) = raw :: splitLines r := by
  induction raw with
  | nil => rfl
  | cons c u ih =>
    obtain ⟨hc, hu⟩ := List.ne_and_not_mem_of_not_mem_cons hfeed
    have hpair : ¬ (c = '\r' ∧ (u ++ '\n' :: r).head? = some '\n') := by
      rintro ⟨rfl, hhead⟩
      cases u with
      | nil => exact hreturn rfl
      | cons d v =>
        obtain rfl := Option.some.inj hhead
        exact hu List.mem_cons_self
    have hlast : u.getLast? ≠ some '\r' := by
      intro h
      rw [List.getLast?_cons, h] at hreturn
      exact hreturn rfl
    rw [List.cons_append, splitLines, if_neg hc.symm, if_neg hpair, ih hu hlast, consHead]

/-- No line has a line feed in it. -/
theorem not_mem_of_mem_splitLines {t : Text} (hraw : raw ∈ splitLines t) : '\n' ∉ raw := by
  induction t generalizing raw with
  | nil =>
    obtain rfl := List.mem_singleton.mp hraw
    exact List.not_mem_nil
  | cons c r ih =>
    unfold splitLines at hraw
    split at hraw
    · rcases List.mem_cons.mp hraw with rfl | hraw
      · exact List.not_mem_nil
      · exact ih hraw
    · rename_i hc
      split at hraw
      · exact ih hraw
      · cases hlines : splitLines r with
        | nil => exact absurd hlines (splitLines_ne_nil r)
        | cons u rest =>
          rw [hlines] at hraw ih
          rcases List.mem_cons.mp hraw with rfl | hraw
          · exact List.not_mem_cons_of_ne_of_not_mem (Ne.symm hc) (ih List.mem_cons_self)
          · exact ih (List.mem_cons_of_mem u hraw)

/-- **Lines that are joined by line feeds are the lines of the text**, unless one of them ends in a
carriage return. -/
theorem splitLines_joinWith (hne : lines ≠ []) (hfeed : ∀ raw ∈ lines, '\n' ∉ raw)
    (hreturn : ∀ raw ∈ lines, raw.getLast? ≠ some '\r') :
    splitLines (joinWith ['\n'] lines) = lines := by
  induction lines with
  | nil => exact absurd rfl hne
  | cons raw rest ih =>
    obtain ⟨hraw, hrest⟩ := List.forall_mem_cons.mp hfeed
    obtain ⟨hlast, hlasts⟩ := List.forall_mem_cons.mp hreturn
    cases rest with
    | nil => exact splitLines_of_not_mem hraw
    | cons u rest =>
      rw [joinWith, List.append_assoc, List.singleton_append, splitLines_append_feed hraw hlast,
        ih (List.cons_ne_nil u rest) hrest hlasts]

/-! ## Statements -/

theorem parseLines_eq_gather (marks : List Text) (first : Nat) (lines : List Text) :
    parseLines marks first lines =
      gather (fun i raw => (Statement.ofLine marks i raw).toList) first lines := by
  induction lines generalizing first with
  | nil => rfl
  | cons raw rest ih => rw [parseLines, gather, ih]

/-- A statement has the number of its line. -/
theorem line_of_ofLine (marks : List Text) (i : Nat) (raw : Text) :
    ∀ s ∈ (Statement.ofLine marks i raw).toList, s.line = i := by
  intro s hs
  obtain ⟨-, command, content, -, rfl⟩ :=
    Statement.ofLine_eq_some_iff.mp (Option.mem_toList.mp hs)
  rfl

/-- **The statement on a line is the one that is read from it**, if there is one. -/
theorem filter_parse (hraw : (splitLines source)[i]? = some raw) :
    (parse marks source).filter (fun s => s.line = (i : Int)) =
      (Statement.ofLine marks i raw).toList := by
  have h := filter_gather Statement.line (line_of_ofLine marks) 0 hraw
  rwa [Nat.zero_add, ← parseLines_eq_gather] at h

/-- **The statements of a script come in the order of their lines**, one a line. -/
theorem pairwise_parse (marks : List Text) (source : Text) :
    (parse marks source).Pairwise fun s t => s.line < t.line := by
  rw [parse, parseLines_eq_gather]
  exact pairwise_gather (line_of_ofLine marks) (fun _ _ => Option.length_toList_le) _ _

end Dialogue.Script
