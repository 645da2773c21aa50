import Dialogue.Editor.Symbols
import Dialogue.Proofs.Table

/-!
# A line that says nothing

A blank line or a comment that is put into a script says nothing, but the lines after it get other
numbers. The statements of the script and the names it declares are as before, only with those
numbers.

* `raised`: the number of a line when one more line has been put in;
* `Inserted`: a script with one more line that says nothing;
* `Statement.relined`, `Symbols.relined`: the same at other lines;
* **`parse_inserted`**, **`symbols_inserted`**: what becomes of the statements and the declared names.
-/

namespace Dialogue

open Text

namespace Script

/-! ## Line numbers -/

/-- The number of line `n` when one more line has been put in as line `k`. -/
def raised {α : Type} [LE α] [DecidableLE α] [Add α] [OfNat α 1] (k n : α) : α :=
  if k ≤ n then n + 1 else n

theorem raised_of_le {k n : Nat} (h : k ≤ n) : raised k n = n + 1 := if_pos h

theorem raised_of_lt {k n : Nat} (h : n < k) : raised k n = n := if_neg (Nat.not_le.mpr h)

theorem raised_cast (k n : Nat) : (raised k n : Nat) = raised (k : Int) (n : Int) := by
  unfold raised
  split <;> split <;> omega

/-- Lines keep their order. -/
theorem raised_lt_raised_iff {k i j : Int} : raised k i < raised k j ↔ i < j := by
  unfold raised
  split <;> split <;> omega

theorem raised_inj {k i j : Int} : raised k i = raised k j ↔ i = j := by
  unfold raised
  split <;> split <;> omega

/-- The lines of `source'` are those of `source` and one more, number `k`, that is blank or a
comment. -/
def Inserted (marks : List Text) (k : Nat) (source source' : Text) : Prop :=
  ∃ before line after, before.length = k ∧ isSkippable marks (trim line) = true ∧
    splitLines source = before ++ after ∧ splitLines source' = before ++ line :: after

end Script

open Script

/-! ## Statements -/

namespace Statement

/-- The statement at another line. -/
def relined (g : Int → Int) (s : Statement) : Statement := { s with line := g s.line }

variable (g : Int → Int) (s : Statement)

@[simp] theorem relined_command : (s.relined g).command = s.command := rfl

@[simp] theorem relined_params : (s.relined g).params = s.params := rfl

@[simp] theorem relined_positional : (s.relined g).positional = s.positional := rfl

@[simp] theorem relined_named : (s.relined g).named = s.named := rfl

@[simp] theorem relined_verb? : (s.relined g).verb? = s.verb? := rfl

@[simp] theorem relined_marker? : (s.relined g).marker? = s.marker? := rfl

end Statement

variable {marks : List Text} {k : Nat} {line source source' : Text}

theorem Statement.ofLine_raised (marks : List Text) (k n : Nat) (raw : Text) :
    Statement.ofLine marks (raised k n : Nat) raw =
      (Statement.ofLine marks n raw).map (Statement.relined (raised k)) := by
  unfold Statement.ofLine
  dsimp only
  split
  · rfl
  · cases matchCommand (trim raw) with
    | none => rfl
    | some m => rw [raised_cast]; rfl

theorem Statement.ofLine_of_isSkippable (hline : isSkippable marks (trim line) = true) (n : Int) :
    Statement.ofLine marks n line = none := if_pos hline

/-- Lines that are all numbered from `k` on. -/
theorem Script.parseLines_succ {first : Nat} (hfirst : k ≤ first) (lines : List Text) :
    parseLines marks (first + 1) lines =
      (parseLines marks first lines).map (Statement.relined (raised k)) := by
  induction lines generalizing first with
  | nil => rfl
  | cons raw rest ih =>
    have hraw := Statement.ofLine_raised marks k first raw
    rw [raised_of_le hfirst] at hraw
    rw [parseLines, parseLines, hraw, ih (Nat.le_succ_of_le hfirst), List.map_append,
      Option.toList_map]

/-- Lines with one more line among them. -/
theorem Script.parseLines_inserted (hline : isSkippable marks (trim line) = true)
    (after before : List Text) {first : Nat} (hk : first + before.length = k) :
    parseLines marks first (before ++ line :: after) =
      (parseLines marks first (before ++ after)).map (Statement.relined (raised k)) := by
  induction before generalizing first with
  | nil =>
    rw [List.nil_append, List.nil_append, parseLines, Statement.ofLine_of_isSkippable hline]
    exact parseLines_succ (Nat.le_of_eq hk.symm) after
  | cons raw rest ih =>
    rw [List.length_cons] at hk
    have hraw := Statement.ofLine_raised marks k first raw
    rw [raised_of_lt (by omega)] at hraw
    rw [List.cons_append, List.cons_append, parseLines, parseLines, ih (by omega), List.map_append,
      ← Option.toList_map, ← hraw]

/-- **The statements are the same**, those from line `k` on one line further down. -/
theorem Script.parse_inserted (hs : Inserted marks k source source') :
    parse marks source' = (parse marks source).map (Statement.relined (raised k)) := by
  obtain ⟨before, line, after, hk, hline, hsource, hsource'⟩ := hs
  rw [parse, parse, hsource, hsource']
  exact parseLines_inserted hline after before (by omega)

/-! ## Declared names -/

namespace Symbols

/-- The same names, declared at other lines. -/
def relined (g : Int → Int) (y : Symbols) : Symbols where
  markers := y.markers.mapValues g
  vars := y.vars.mapValues fun (type, line) => (type, g line)

theorem add_relined (g : Int → Int) (y : Symbols) (s : Statement) :
    (y.relined g).add (s.relined g) = (y.add s).relined g := by
  unfold add
  rw [Statement.relined_verb?, Statement.relined_params]
  cases s.params.head? with
  | none => rfl
  | some q =>
    cases s.verb? with
    | none => rfl
    | some v =>
      have hmarkers := Table.putNew_mapValues g q.value s.line y.markers
      have hvars := fun type => Table.putNew_mapValues (fun (d : ParamType × Int) => (d.1, g d.2))
        q.value (type, s.line) y.vars
      cases v <;>
        simp only [Verb.declares, relined, Statement.relined, ← hmarkers, ← hvars]

theorem foldl_add_relined (g : Int → Int) (script : List Statement) (y : Symbols) :
    (script.map (Statement.relined g)).foldl add (y.relined g) = (script.foldl add y).relined g := by
  induction script generalizing y with
  | nil => rfl
  | cons s rest ih => rw [List.map_cons, List.foldl_cons, List.foldl_cons, add_relined, ih]

end Symbols

/-- **The declared names are the same**, in the same order and of the same types, those declared
from line `k` on one line further down. -/
theorem symbols_inserted (hs : Inserted marks k source source') :
    symbols marks source' = (symbols marks source).relined (raised k) := by
  rw [symbols, symbols, parse_inserted hs]
  exact Symbols.foldl_add_relined (raised k) (parse marks source) {}

end Dialogue
