import Dialogue.Proofs.Script.Scan

/-!
# Tokens between commas

The tokens of a bracket content are trimmed, no comma counts in them, and only the last one can run
into a string that is never closed. Tokens joined by commas again are those of the joined text as
long as no comma is lost, and a comma is lost after a token that ends in an odd number of
backslashes: the last backslash keeps it as an ordinary character.

* **`splitParams_tokens`**: what splitting gives are tokens;
* `Tokens.length_pieces`: each comma that is lost joins two tokens into one;
* **`Tokens.splitParams_join`**: when no comma is lost and the last token is not empty, splitting
  undoes joining;
* `Tokens.length_splitParams_join`: in any other case there are fewer tokens than before.
-/

namespace Dialogue.Script

open Text Mode

/-- Texts that can be the tokens of a bracket content. -/
structure Tokens (ws : List Text) : Prop where
  trimmed : ∀ w ∈ ws, Trimmed w
  whole : ∀ w ∈ ws, findFrom ',' start w = none
  closed : ∀ w ∈ ws.dropLast, (start.after w).inQuotes = false

/-- The tokens with a comma and a space between neighbours. -/
abbrev join (ws : List Text) : Text := joinWith (ofString ", ") ws

/-! ## Splitting -/

theorem dropEmptyEnd_eq (ps : List Text) :
    dropEmptyEnd ps = if ps.getLast? = some [] then ps.dropLast else ps := by
  fun_induction dropEmptyEnd ps with
  | case1 => rfl
  | case2 => rfl
  | case3 p hp => simp [hp]
  | case4 p q ps ih =>
    rw [ih, List.getLast?_cons_cons, List.dropLast_cons_cons]
    split_ifs <;> rfl

theorem mem_of_mem_dropEmptyEnd {ps : List Text} {p : Text} (h : p ∈ dropEmptyEnd ps) : p ∈ ps := by
  rw [dropEmptyEnd_eq] at h
  split_ifs at h
  · exact List.dropLast_subset _ h
  · exact h

theorem mem_dropLast_of_mem_dropEmptyEnd {ps : List Text} {p : Text}
    (h : p ∈ (dropEmptyEnd ps).dropLast) : p ∈ ps.dropLast := by
  rw [dropEmptyEnd_eq] at h
  split_ifs at h
  · exact List.dropLast_subset _ h
  · exact h

/-- **What splitting a bracket content gives are tokens.** -/
theorem splitParams_tokens (content : Text) : Tokens (splitParams content) where
  trimmed w hw := by
    obtain ⟨p, -, rfl⟩ := List.mem_map.mp (mem_of_mem_dropEmptyEnd hw)
    exact trim_trimmed p
  whole w hw := by
    obtain ⟨p, hp, rfl⟩ := List.mem_map.mp (mem_of_mem_dropEmptyEnd hw)
    exact findFrom_trim ((scanned_piecesFrom start content).whole p hp)
  closed w hw := by
    have hmem := mem_dropLast_of_mem_dropEmptyEnd hw
    rw [← List.map_dropLast] at hmem
    obtain ⟨p, hp, rfl⟩ := List.mem_map.mp hmem
    rw [inQuotes_after_trim, (scanned_piecesFrom start content).closed p hp]
    rfl

theorem mem_of_mem_splitParams {content w : Text} {c : Char} (hw : w ∈ splitParams content)
    (hc : c ∈ w) : c ∈ content := by
  obtain ⟨p, hp, rfl⟩ := List.mem_map.mp (mem_of_mem_dropEmptyEnd hw)
  exact mem_of_mem_piecesFrom hp (mem_of_mem_trim hc)

theorem length_splitParams_le (content : Text) :
    (splitParams content).length ≤ (piecesFrom start content).length := by
  rw [splitParams, dropEmptyEnd_eq]
  split_ifs
  · simp
  · simp

/-! ## Joining -/

theorem length_consHead {ps : List Text} (c : Char) (h : ps ≠ []) :
    (consHead c ps).length = ps.length := by
  cases ps with
  | nil => exact absurd rfl h
  | cons p ps => rfl

theorem mem_joinWith {sep : Text} {ws : List Text} {c : Char} (h : c ∈ joinWith sep ws) :
    c ∈ sep ∨ ∃ w ∈ ws, c ∈ w := by
  fun_induction joinWith sep ws with
  | case1 => cases h
  | case2 t => exact .inr ⟨t, List.mem_cons_self, h⟩
  | case3 t u ts ih =>
    rcases List.mem_append.mp h with h | h
    · rcases List.mem_append.mp h with h | h
      · exact .inr ⟨t, List.mem_cons_self, h⟩
      · exact .inl h
    · exact (ih h).imp_right fun ⟨w, hw, hc⟩ => ⟨w, List.mem_cons_of_mem t hw, hc⟩

namespace Tokens

variable {w v : Text} {ws : List Text}

theorem tail (h : Tokens (w :: v :: ws)) : Tokens (v :: ws) where
  trimmed u hu := h.trimmed u (List.mem_cons_of_mem w hu)
  whole u hu := h.whole u (List.mem_cons_of_mem w hu)
  closed u hu := h.closed u (List.mem_cons_of_mem w hu)

theorem closed_head (h : Tokens (w :: v :: ws)) : (start.after w).inQuotes = false :=
  h.closed w List.mem_cons_self

/-- Behind a token that leaves the scan as it was, the comma ends the piece. -/
theorem pieces_of_not_endsOdd (h : Tokens (w :: v :: ws)) (hw : ¬ EndsOdd w) :
    piecesFrom start (join (w :: v :: ws)) =
      w :: consHead ' ' (piecesFrom start (join (v :: ws))) := by
  rw [join, joinWith, List.append_assoc, piecesFrom_append (h.whole w List.mem_cons_self),
    start_after_eq h.closed_head hw]
  change List.modifyHead (w ++ ·) (piecesFrom start (',' :: ' ' :: join (v :: ws))) = _
  rw [piecesFrom_comma rfl, piecesFrom_cons (by simp)]
  simp [start, Mode.next]

/-- Behind an odd number of backslashes the comma is an ordinary character. -/
theorem pieces_of_endsOdd (h : Tokens (w :: v :: ws)) (hw : EndsOdd w) :
    piecesFrom start (join (w :: v :: ws)) =
      (consHead ',' (consHead ' ' (piecesFrom start (join (v :: ws))))).modifyHead (w ++ ·) := by
  rw [join, joinWith, List.append_assoc, piecesFrom_append (h.whole w List.mem_cons_self),
    start_after_escaped h.closed_head hw]
  change List.modifyHead (w ++ ·) (piecesFrom _ (',' :: ' ' :: join (v :: ws))) = _
  rw [piecesFrom_cons (by simp [isTop]), piecesFrom_cons (by simp)]
  simp [start, Mode.next]

/-- **Each token but the last that ends in an odd number of backslashes costs one piece.** -/
theorem length_pieces (h : Tokens (w :: ws)) :
    (piecesFrom start (join (w :: ws))).length + (w :: ws).dropLast.countP (EndsOdd ·) =
      ws.length + 1 := by
  induction ws generalizing w with
  | nil =>
    rw [join, joinWith, piecesFrom_whole (h.whole w List.mem_cons_self)]
    rfl
  | cons v ws ih =>
    have hrest := ih h.tail
    have hne := piecesFrom_ne_nil start (join (v :: ws))
    rw [List.dropLast_cons_cons, List.countP_cons, List.length_cons]
    by_cases hw : EndsOdd w
    · rw [h.pieces_of_endsOdd hw, List.length_modifyHead, length_consHead, length_consHead _ hne]
      · simp only [hw, decide_true, if_true]
        omega
      · cases hp : piecesFrom start (join (v :: ws)) <;> simp [consHead]
    · rw [h.pieces_of_not_endsOdd hw, List.length_cons, length_consHead _ hne]
      simp only [hw, decide_false, if_neg Bool.false_ne_true]
      omega

/-- When no comma is lost the pieces are the tokens, but for a space. -/
theorem map_trim_pieces (h : Tokens (w :: ws)) (hodd : ∀ u ∈ (w :: ws).dropLast, ¬ EndsOdd u) :
    (piecesFrom start (join (w :: ws))).map trim = w :: ws := by
  induction ws generalizing w with
  | nil =>
    rw [join, joinWith, piecesFrom_whole (h.whole w List.mem_cons_self), List.map_singleton,
      (h.trimmed w List.mem_cons_self).trim_eq]
  | cons v ws ih =>
    rw [List.dropLast_cons_cons, List.forall_mem_cons] at hodd
    have hrest := ih h.tail hodd.2
    rw [h.pieces_of_not_endsOdd hodd.1, List.map_cons, (h.trimmed w List.mem_cons_self).trim_eq]
    obtain ⟨p, ps, hp⟩ := exists_piecesFrom_eq_cons start (join (v :: ws))
    rw [hp, List.map_cons] at hrest
    rw [hp, consHead, List.map_cons, trim_cons_blank (by decide), hrest]

/-- **Splitting undoes joining** when no comma is lost and the last token is not empty. -/
theorem splitParams_join (h : Tokens ws) (hlast : ws.getLast? ≠ some [])
    (hodd : ∀ u ∈ ws.dropLast, ¬ EndsOdd u) : splitParams (join ws) = ws := by
  cases ws with
  | nil => rfl
  | cons w ws => rw [splitParams, h.map_trim_pieces hodd, dropEmptyEnd_eq, if_neg hlast]

/-- **In any other case there are fewer tokens than before.** -/
theorem length_splitParams_join (h : Tokens ws)
    (hbad : ws.getLast? = some [] ∨ ∃ u ∈ ws.dropLast, EndsOdd u) :
    (splitParams (join ws)).length < ws.length := by
  cases ws with
  | nil => simp at hbad
  | cons w ws =>
    by_cases hodd : ∃ u ∈ (w :: ws).dropLast, EndsOdd u
    · have hpos : 0 < (w :: ws).dropLast.countP (EndsOdd ·) := by
        simpa [List.countP_pos_iff] using hodd
      have hlen := h.length_pieces
      have hle := length_splitParams_le (join (w :: ws))
      rw [List.length_cons]
      omega
    · have hlast := hbad.resolve_right hodd
      have hnone : ∀ u ∈ (w :: ws).dropLast, ¬ EndsOdd u := fun u hu hu' => hodd ⟨u, hu, hu'⟩
      rw [splitParams, h.map_trim_pieces hnone, dropEmptyEnd_eq, if_pos hlast]
      simp

end Tokens

/-- A trimmed text without a comma is one token. -/
theorem splitParams_of_not_mem {w : Text} (htrim : Trimmed w) (hcomma : ',' ∉ w) (hne : w ≠ []) :
    splitParams w = [w] := by
  have htokens : Tokens [w] :=
    ⟨List.forall_mem_singleton.mpr htrim,
      List.forall_mem_singleton.mpr (findFrom_eq_none_of_not_mem hcomma), nofun⟩
  exact htokens.splitParams_join (by simpa using hne) nofun

end Dialogue.Script
