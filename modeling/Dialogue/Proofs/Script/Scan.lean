import Dialogue.Proofs.Text.Trim
import Dialogue.Script.Scan

/-!
# How a scan reads a text

A scan that starts outside quotes reads a text in one way whatever stands before it, and a text in
which no comma counts is one piece. Both are said with `findFrom`: the character does not count in
the text when the search comes to nothing.

* `Mode.escaped_after`: the next character is kept as it is exactly after an odd number of
  backslashes;
* `findFrom_append`, `piecesFrom_append`: a scan goes through a text where nothing counts and on
  into what follows;
* `findFrom_eq_some`, `splitNamed_append`: where the character that was found stands;
* **`scanned_piecesFrom`**: each piece is one piece on its own and, the last one apart, leaves the
  scan as it was at the start.
-/

namespace Dialogue.Script

open Text

/-! ## Modes -/

/-- The text ends in an odd number of backslashes. -/
def EndsOdd (t : Text) : Prop := (t.rtakeWhile (· = '\\')).length % 2 = 1

instance (t : Text) : Decidable (EndsOdd t) := inferInstanceAs (Decidable (_ = _))

namespace Mode

variable {m : Mode} {c : Char} {t : Text}

@[simp] theorem after_nil (m : Mode) : m.after [] = m := rfl

@[simp] theorem after_cons (m : Mode) (c : Char) (t : Text) :
    m.after (c :: t) = (m.next c).after t := rfl

theorem eq_start (hq : m.inQuotes = false) (he : m.escaped = false) : m = start := by
  cases m
  simp_all [start]

theorem isTop_iff : m.isTop = true ↔ m = start := by
  cases m with
  | mk q e => cases q <;> cases e <;> simp [isTop, start]

/-- A character that is neither a backslash nor a double quote only takes the escape away. -/
theorem next_plain (hs : c ≠ '\\') (hq : c ≠ '"') : m.next c = ⟨m.inQuotes, false⟩ := by
  obtain ⟨q, e⟩ := m
  cases e <;> simp [next, hs, hq]

theorem next_blank (h : isBlank c = true) : m.next c = ⟨m.inQuotes, false⟩ :=
  next_plain (by rintro rfl; exact absurd h (by decide)) (by rintro rfl; exact absurd h (by decide))

theorem inQuotes_after_blanks (h : Blanks t) : (m.after t).inQuotes = m.inQuotes := by
  induction t generalizing m with
  | nil => rfl
  | cons c r ih =>
    rw [after_cons, ih fun d hd => h d (List.mem_cons_of_mem c hd),
      next_blank (h c List.mem_cons_self)]

theorem start_after_blanks (h : Blanks t) : start.after t = start := by
  induction t with
  | nil => rfl
  | cons c r ih =>
    rw [after_cons, next_blank (h c List.mem_cons_self)]
    exact ih fun d hd => h d (List.mem_cons_of_mem c hd)

/-- **The next character is escaped after an odd number of backslashes.** -/
theorem escaped_after (hm : m.escaped = false) (t : Text) :
    (m.after t).escaped = true ↔ EndsOdd t := by
  induction t using List.reverseRecOn with
  | nil => simp [hm, EndsOdd]
  | append_singleton t c ih =>
    rw [after_append, after_cons, after_nil, EndsOdd, List.rtakeWhile_concat]
    by_cases hc : c = '\\'
    · -- one backslash more turns the parity, and the escape with it
      have hflip : ((m.after t).next c).escaped = true ↔ ¬ (m.after t).escaped = true := by
        cases he : (m.after t).escaped <;> simp [next, he, hc]
      rw [hflip, ih, EndsOdd, if_pos (by simpa using hc), List.length_append, List.length_singleton]
      omega
    · have hnext : ((m.after t).next c).escaped = false := by
        unfold next
        split_ifs <;> simp_all
      simp [hnext, hc]

theorem start_after_eq (hq : (start.after t).inQuotes = false) (ht : ¬ EndsOdd t) :
    start.after t = start :=
  eq_start hq (eq_false_of_ne_true (mt (escaped_after (m := start) rfl t).mp ht))

theorem start_after_escaped (hq : (start.after t).inQuotes = false) (ht : EndsOdd t) :
    start.after t = ⟨false, true⟩ := by
  have he := (escaped_after (m := start) rfl t).mpr ht
  cases hm : start.after t
  simp_all

/-- Blanks around a text do not change whether it ends inside a string. -/
theorem inQuotes_after_trim (t : Text) :
    (start.after (trim t)).inQuotes = (start.after t).inQuotes := by
  obtain ⟨b, e, hb, he, ht⟩ := trim_split t
  conv_rhs => rw [ht, after_append, start_after_blanks hb, after_append, inQuotes_after_blanks he]

end Mode

open Mode

/-! ## Searching -/

section Find

variable {target : Char} {m : Mode} {t u : Text}

/-- **A search goes through a text where the character does not count.** -/
theorem findFrom_append (h : findFrom target m t = none) (u : Text) :
    findFrom target m (t ++ u) = (findFrom target (m.after t) u).map (· + t.length) := by
  induction t generalizing m with
  | nil => simp
  | cons c r ih =>
    rw [findFrom] at h
    split at h
    · cases h
    · rename_i hc
      rw [List.cons_append, findFrom, if_neg hc, ih (Option.map_eq_none_iff.mp h), Option.map_map]
      rfl

theorem findFrom_append_eq_none_iff : findFrom target m (t ++ u) = none ↔
    findFrom target m t = none ∧ findFrom target (m.after t) u = none := by
  constructor
  · intro h
    induction t generalizing m with
    | nil => exact ⟨rfl, h⟩
    | cons c r ih =>
      rw [List.cons_append, findFrom] at h
      split at h
      · cases h
      · rename_i hc
        obtain ⟨hr, hu⟩ := ih (Option.map_eq_none_iff.mp h)
        exact ⟨by rw [findFrom, if_neg hc, hr]; rfl, hu⟩
  · rintro ⟨ht, hu⟩
    rw [findFrom_append ht, hu]
    rfl

/-- The character that was found stands behind a text where it does not count, and that text leaves
the scan as it was at the start. -/
theorem findFrom_eq_some {i : Nat} (h : findFrom target m t = some i) :
    ∃ a b, t = a ++ target :: b ∧ a.length = i ∧ findFrom target m a = none ∧
      m.after a = start := by
  induction t generalizing m i with
  | nil => cases h
  | cons c r ih =>
    rw [findFrom] at h
    split at h
    · rename_i hc
      obtain rfl := Option.some.inj h
      obtain ⟨htop, -, -, rfl⟩ := hc
      exact ⟨[], r, rfl, rfl, rfl, isTop_iff.mp htop⟩
    · rename_i hc
      obtain ⟨j, hj, rfl⟩ := Option.map_eq_some_iff.mp h
      obtain ⟨a, b, rfl, rfl, hnone, hafter⟩ := ih hj
      exact ⟨c :: a, b, rfl, rfl, by rw [findFrom, if_neg hc, hnone]; rfl, hafter⟩

theorem findFrom_eq_none_of_not_mem (h : target ∉ t) : findFrom target m t = none := by
  rw [Option.eq_none_iff_forall_ne_some]
  intro i hi
  obtain ⟨a, b, rfl, -⟩ := findFrom_eq_some hi
  exact h (List.mem_append_right a List.mem_cons_self)

/-- What does not count in a text does not count in its trimmed middle. -/
theorem findFrom_trim (h : findFrom target start t = none) :
    findFrom target start (trim t) = none := by
  obtain ⟨b, e, hb, -, ht⟩ := trim_split t
  rw [ht] at h
  have hmid := (findFrom_append_eq_none_iff.mp h).2
  rw [start_after_blanks hb] at hmid
  exact (findFrom_append_eq_none_iff.mp hmid).1

/-- The first equals sign that counts stands between name and value. -/
theorem splitNamed_append {a : Text} (hnone : findFrom '=' start a = none)
    (hafter : start.after a = start) (b : Text) :
    splitNamed (a ++ '=' :: b) = some (trim a, trim b) := by
  have hfind : findFrom '=' start (a ++ '=' :: b) = some a.length := by
    rw [findFrom_append hnone, hafter]
    simp [findFrom, start, isTop]
  simp [splitNamed, findTopLevel, hfind]

end Find

/-! ## Pieces -/

section Pieces

variable {m : Mode} {c : Char} {t u : Text}

theorem exists_piecesFrom_eq_cons (m : Mode) (t : Text) : ∃ p ps, piecesFrom m t = p :: ps :=
  List.exists_cons_of_ne_nil (piecesFrom_ne_nil m t)

theorem piecesFrom_comma (h : m = start) (t : Text) :
    piecesFrom m (',' :: t) = [] :: piecesFrom m t := by
  rw [piecesFrom, if_pos ⟨isTop_iff.mpr h, rfl⟩]

theorem piecesFrom_cons (h : ¬ (m.isTop = true ∧ c = ',')) (t : Text) :
    piecesFrom m (c :: t) = consHead c (piecesFrom (m.next c) t) := by
  rw [piecesFrom, if_neg h]

theorem findFrom_comma_cons_eq_none (h : ¬ (m.isTop = true ∧ c = ',')) :
    findFrom ',' m (c :: t) = none ↔ findFrom ',' (m.next c) t = none := by
  rw [findFrom, if_neg (fun hc => h ⟨hc.1, hc.2.2.2⟩), Option.map_eq_none_iff]

/-- **A text where no comma counts opens the first piece of what follows it.** -/
theorem piecesFrom_append (h : findFrom ',' m t = none) (u : Text) :
    piecesFrom m (t ++ u) = (piecesFrom (m.after t) u).modifyHead (t ++ ·) := by
  induction t generalizing m with
  | nil => cases hp : piecesFrom m u <;> simp [hp]
  | cons c r ih =>
    have hc : ¬ (m.isTop = true ∧ c = ',') := by
      rintro ⟨htop, rfl⟩
      rw [findFrom, if_pos ⟨htop, by decide, by decide, rfl⟩] at h
      cases h
    rw [List.cons_append, piecesFrom_cons hc, ih ((findFrom_comma_cons_eq_none hc).mp h), after_cons]
    obtain ⟨p, ps, hp⟩ := exists_piecesFrom_eq_cons ((m.next c).after r) u
    rw [hp]
    rfl

/-- A text where no comma counts is one piece. -/
theorem piecesFrom_whole (h : findFrom ',' m t = none) : piecesFrom m t = [t] := by
  have hpieces := piecesFrom_append h []
  rw [List.append_nil] at hpieces
  simp [hpieces, piecesFrom]

/-- The pieces of a scan: no comma counts in any of them, and each but the last leaves the scan as
it was at the start. -/
def Scanned (m : Mode) : List Text → Prop
  | [] => False
  | [p] => findFrom ',' m p = none
  | p :: q :: ps => findFrom ',' m p = none ∧ m.after p = start ∧ Scanned start (q :: ps)

theorem Scanned.consHead {ps : List Text} (hc : ¬ (m.isTop = true ∧ c = ','))
    (h : Scanned (m.next c) ps) : Scanned m (consHead c ps) := by
  match ps, h with
  | [p], h => exact (findFrom_comma_cons_eq_none hc).mpr h
  | p :: q :: ps, ⟨hp, hafter, hrest⟩ =>
    exact ⟨(findFrom_comma_cons_eq_none hc).mpr hp, hafter, hrest⟩

/-- **The pieces of a text are pieces of a scan.** -/
theorem scanned_piecesFrom (m : Mode) (t : Text) : Scanned m (piecesFrom m t) := by
  induction t generalizing m with
  | nil => rfl
  | cons c r ih =>
    by_cases hc : m.isTop = true ∧ c = ','
    · obtain ⟨htop, rfl⟩ := hc
      obtain rfl := isTop_iff.mp htop
      obtain ⟨p, ps, hp⟩ := exists_piecesFrom_eq_cons start r
      rw [piecesFrom_comma rfl, hp]
      exact ⟨rfl, rfl, hp ▸ ih start⟩
    · rw [piecesFrom_cons hc]
      exact (ih (m.next c)).consHead hc

theorem Scanned.whole {ps : List Text} (h : Scanned start ps) :
    ∀ p ∈ ps, findFrom ',' start p = none := by
  match ps, h with
  | [p], h => exact List.forall_mem_singleton.mpr h
  | p :: q :: ps, ⟨hp, _, hrest⟩ => exact List.forall_mem_cons.mpr ⟨hp, hrest.whole⟩

theorem Scanned.closed {ps : List Text} (h : Scanned start ps) :
    ∀ p ∈ ps.dropLast, start.after p = start := by
  match ps, h with
  | [p], _ => simp
  | p :: q :: ps, ⟨_, hafter, hrest⟩ =>
    rw [List.dropLast_cons_cons]
    exact List.forall_mem_cons.mpr ⟨hafter, hrest.closed⟩

theorem mem_of_mem_piecesFrom {p : Text} {d : Char} (hp : p ∈ piecesFrom m t) (hd : d ∈ p) :
    d ∈ t := by
  induction t generalizing m p with
  | nil =>
    obtain rfl := List.mem_singleton.mp hp
    exact hd
  | cons c r ih =>
    rw [piecesFrom] at hp
    split at hp
    · rcases List.mem_cons.mp hp with rfl | hp
      · cases hd
      · exact List.mem_cons_of_mem c (ih hp hd)
    · obtain ⟨q, qs, hq⟩ := exists_piecesFrom_eq_cons (m.next c) r
      rw [hq] at hp
      rcases List.mem_cons.mp hp with rfl | hp
      · rcases List.mem_cons.mp hd with rfl | hd
        · exact List.mem_cons_self
        · exact List.mem_cons_of_mem c (ih (hq ▸ List.mem_cons_self) hd)
      · exact List.mem_cons_of_mem c (ih (hq ▸ List.mem_cons_of_mem q hp) hd)

end Pieces

end Dialogue.Script
