import Dialogue.Machine.State

/-!
# Labels are first declarations

A script's labels are entered in one pass over its statements, a marker that is there already being
left where it is. What the table holds in the end is said here without the pass:

* `Statement.Marks`: a statement that declares a marker;
* `Script.FirstMark`: the number of the first statement that does;
* **`get?_labels_iff`**: the table gives a marker exactly the number of its first declaration.
-/

namespace Dialogue

open Text

/-- The statement is a line marker, and the value of its first parameter is `m`. -/
def Statement.Marks (s : Statement) (m : Text) : Prop :=
  s.key = ofString "line_marker" ∧ ∃ q, s.params.head? = some q ∧ q.value = m

theorem Verb.ofKey?_eq_mark_iff (key : Text) :
    Verb.ofKey? key = some .mark ↔ key = ofString "line_marker" := by
  constructor
  · intro h
    have hmem := Table.mem_of_get? h
    simpa [Verb.names] using hmem
  · rintro rfl
    decide

theorem Statement.marker?_eq_some_iff (s : Statement) (m : Text) :
    s.marker? = some m ↔ s.Marks m := by
  unfold Statement.marker? Statement.Marks Statement.verb?
  rw [← Verb.ofKey?_eq_mark_iff]
  split
  · rename_i h
    simp [h]
  · rename_i h
    simp [h]

namespace Script

/-- Statement number `i` is the first one that declares the marker `m`. -/
def FirstMark (script : List Statement) (m : Text) (i : Nat) : Prop :=
  (∃ s, script[i]? = some s ∧ s.Marks m) ∧ ∀ j < i, ∀ s, script[j]? = some s → ¬ s.Marks m

/-- An entry made before the pass stays; else the first declaration counts. -/
theorem get?_enterLabels (m : Text) : ∀ (script : List Statement) (first : Nat) (table : Table Nat),
    (enterLabels first table script).get? m =
      (table.get? m).or ((script.findIdx? fun s => s.marker? = some m).map (first + ·))
  | [], first, table => by
    simp [enterLabels]
  | s :: rest, first, table => by
    rw [enterLabels, get?_enterLabels m rest, List.findIdx?_cons]
    have hshift : ∀ o : Option Nat,
        o.map (first + 1 + ·) = (o.map (· + 1)).map (first + ·) := by
      intro o
      cases o with
      | none => rfl
      | some i => simp only [Option.map_some, Option.some.injEq]; omega
    cases hs : s.marker? with
    | none => simp [hshift]
    | some n =>
      simp only [Table.get?_putNew, Option.some.injEq]
      by_cases hn : n = m
      · cases htable : table.get? m <;> simp [hn]
      · simp [hn, hshift]

theorem get?_labels (script : List Statement) (m : Text) :
    (labels script).get? m = script.findIdx? fun s => s.marker? = some m := by
  rw [labels, get?_enterLabels, Table.get?_nil, Option.none_or]
  cases script.findIdx? fun s => s.marker? = some m <;> simp

/-- **A label is the number of the first statement that declares it.** -/
theorem get?_labels_iff (script : List Statement) (m : Text) (i : Nat) :
    (labels script).get? m = some i ↔ FirstMark script m i := by
  rw [get?_labels, List.findIdx?_eq_some_iff_getElem]
  simp only [decide_eq_true_eq, Statement.marker?_eq_some_iff, FirstMark]
  constructor
  · rintro ⟨hi, hmark, hbefore⟩
    refine ⟨⟨script[i], List.getElem?_eq_getElem hi, hmark⟩, fun j hj s hs => ?_⟩
    obtain ⟨-, rfl⟩ := List.getElem?_eq_some_iff.mp hs
    exact hbefore j hj
  · rintro ⟨⟨s, hs, hmark⟩, hbefore⟩
    obtain ⟨hi, rfl⟩ := List.getElem?_eq_some_iff.mp hs
    exact ⟨hi, hmark, fun j hj =>
      hbefore j hj _ (List.getElem?_eq_getElem (Nat.lt_trans hj hi))⟩

/-- A label is the number of a statement. -/
theorem lt_length_of_get?_labels {script : List Statement} {m : Text} {i : Nat}
    (h : (labels script).get? m = some i) : i < script.length := by
  obtain ⟨⟨s, hs, -⟩, -⟩ := (get?_labels_iff script m i).mp h
  exact (List.getElem?_eq_some_iff.mp hs).1

end Script

end Dialogue
