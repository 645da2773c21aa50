import Dialogue.Proofs.Lint.Accounts
import Mathlib.Data.Multiset.MapFold

/-!
# The order of named parameters does not matter to the linter

The linter goes through the tokens behind the required ones from left to right, and it uses up the
trailing parameters as it comes to tokens without a name. What a token is taken for depends on the
number of unnamed tokens before it, and for a named one not even on that. So the named tokens may
stand anywhere behind the required ones.

* `Reordered`: the named tokens behind the first ones stand in other places;
* `rolesByKind`: the roles of the unnamed tokens in order, and then those of the named ones.
  `ofExtra_perm` says that these are the roles of the tokens as they stand;
* **`lineDiagnostics_reordered`**: the diagnostics of both lines are the same, up to their order.
-/

namespace Dialogue.Lint

open Text Script

variable {catalog : Catalog} {marks : List Text} {facts : Facts} {c : Contract} {r k : Nat}
  {t raw raw' : Text} {ts ts' xs xs' : List Text}

/-- The same tokens, of which the first `r` stand in their places and the unnamed ones behind them in
their order. -/
structure Reordered (r : Nat) (ts ts' : List Text) : Prop where
  required : ts'.take r = ts.take r
  perm : (ts'.drop r).Perm (ts.drop r)
  unnamed : (ts'.drop r).filter isUnnamed = (ts.drop r).filter isUnnamed

/-- All tokens are the same. -/
theorem Reordered.tokens_perm (h : Reordered r ts ts') : ts'.Perm ts := by
  rw [← List.take_append_drop r ts', ← List.take_append_drop r ts, h.required]
  exact h.perm.append_left _

/-! ## Roles -/

/-- A named token is taken for the same wherever it stands. -/
theorem ofExtra_of_named (c : Contract) (k : Nat) (ht : ¬ isUnnamed t = true) :
    Role.ofExtra c k t = Role.ofExtra c 0 t := by
  unfold Role.ofExtra
  cases hnamed : splitNamed t with
  | none => exact absurd (isUnnamed_of_eq_none hnamed) ht
  | some e => rfl

/-- The roles of the unnamed tokens in order, with `k` of them before, and then those of the named
ones. -/
def rolesByKind (c : Contract) (k : Nat) (xs : List Text) : List Role :=
  ((xs.filter isUnnamed).mapIdx fun i t => Role.ofExtra c (k + i) t) ++
    (xs.filter fun t => !isUnnamed t).map (Role.ofExtra c 0)

/-- **Each token behind the required ones has the role that it has among its like**, an unnamed one
among the unnamed and a named one by itself. -/
theorem ofExtra_perm (c : Contract) (k : Nat) (xs : List Text) :
    (xs.mapIdx fun i t => Role.ofExtra c (k + rank xs i) t).Perm (rolesByKind c k xs) := by
  induction xs generalizing k with
  | nil => exact .nil
  | cons t xs ih =>
    rw [List.mapIdx_cons]
    simp only [rank_cons]
    unfold rolesByKind
    by_cases ht : isUnnamed t = true
    · have hrest := ih (k + 1)
      rw [List.filter_cons_of_pos ht, List.filter_cons_of_neg (by simp [ht]), List.mapIdx_cons,
        List.cons_append, if_pos ht]
      simp only [← Nat.add_assoc, Nat.add_right_comm k _ 1]
      exact hrest.cons _
    · have hrest := ih k
      rw [List.filter_cons_of_neg ht, List.filter_cons_of_pos (by simp [ht]), List.map_cons,
        if_neg ht, ofExtra_of_named c _ ht]
      simp only [Nat.zero_add]
      exact (hrest.cons _).trans List.perm_middle.symm

/-- The roles of the tokens behind the required ones do not depend on where the named ones stand. -/
theorem rolesByKind_perm (hperm : xs'.Perm xs)
    (hunnamed : xs'.filter isUnnamed = xs.filter isUnnamed) :
    (rolesByKind c k xs').Perm (rolesByKind c k xs) := by
  unfold rolesByKind
  rw [hunnamed]
  exact ((hperm.filter _).map _).append_left _

theorem zipWith_take_length {α β γ : Type} (f : α → β → γ) (as : List α) (bs : List β) :
    List.zipWith f as (bs.take as.length) = List.zipWith f as bs := by
  have hlength : (List.zipWith f as bs).length ≤ as.length := by
    rw [List.length_zipWith]
    exact Nat.min_le_left _ _
  calc List.zipWith f as (bs.take as.length)
      = (List.zipWith f as bs).take as.length := by rw [List.take_zipWith, List.take_length]
    _ = List.zipWith f as bs := List.take_of_length_le hlength

/-- **The tokens are taken for the same.** -/
theorem roles_reordered (h : Reordered c.required.length ts ts') :
    (roles c ts').Perm (roles c ts) := by
  have hextras : ∀ ts : List Text,
      ((extras c ts).mapIdx fun i t => Role.ofExtra c (rank (extras c ts) i) t).Perm
        (rolesByKind c 0 (extras c ts)) := by
    intro ts
    have hsorted := ofExtra_perm c 0 (extras c ts)
    simp only [Nat.zero_add] at hsorted
    exact hsorted
  unfold roles
  rw [← zipWith_take_length Role.ofRequired c.required ts', h.required, zipWith_take_length]
  refine List.Perm.append_left _ ?_
  exact (hextras ts').trans ((rolesByKind_perm h.perm h.unnamed).trans (hextras ts).symm)

/-! ## Problems -/

/-- The problems of the parameters are the same, up to their order. -/
theorem checkParams_reordered (facts : Facts) (h : Reordered c.required.length ts ts') :
    (checkParams facts c ts').Perm (checkParams facts c ts) := by
  rw [checkParams_eq, checkParams_eq, h.tokens_perm.length_eq]
  exact ((roles_reordered h).flatMap_right _).append_right _

/-- The diagnostics of a line as a multiset, were it to stand in the range; there are none where the
linter refuses the script. -/
def lineDiagnostics (catalog : Catalog) (marks : List Text) (facts : Facts) (range : TextRange)
    (raw : Text) : Except TooManyDigits (Multiset Diagnostic) :=
  (checkLine catalog marks facts raw).map fun problems =>
    Multiset.ofList (problems.map fun x => x.diagnostic range)

/-- **The diagnostics of both lines are the same**, whatever the facts. -/
theorem lineDiagnostics_reordered {command command' content content' : Text}
    (hline : commandLine? marks raw = some (command, content))
    (hline' : commandLine? marks raw' = some (command', content'))
    (hfind : catalog.find? command = some c) (hfind' : catalog.find? command' = some c)
    (h : Reordered c.required.length (splitParams content) (splitParams content'))
    (facts : Facts) (range : TextRange) :
    lineDiagnostics catalog marks facts range raw' =
      lineDiagnostics catalog marks facts range raw := by
  unfold lineDiagnostics
  rw [checkLine_of_known hline hfind, checkLine_of_known hline' hfind']
  cases checkVersion facts c with
  | error e => rfl
  | ok version =>
    have hproblems := (checkParams_reordered facts h).append_left
      (version ++ checkGame catalog facts c)
    exact congrArg Except.ok (Multiset.coe_eq_coe.mpr (hproblems.map _))

end Dialogue.Lint
