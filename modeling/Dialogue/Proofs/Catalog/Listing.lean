import Dialogue.Catalog.Standard
import Dialogue.Proofs.Table
import Mathlib.Tactic.Common

/-!
# The contracts of a catalog, found and listed

A catalog is made from contracts no two of which have the same name in lower case. So each of them
is found under its own name, and in the listing by lower-case name each stands once and strictly
before the next.

* `Catalog.Holds`: the catalog has exactly the given contracts, each under its lower-case name
  (`holds_ofContracts`, `holds_standard`, `holds_orElse`);
* `Catalog.Holds.find?_name`: each contract is found under its name;
* **`Catalog.Holds.pairwise_contracts`**: the listing is strictly ascending.
-/

namespace Dialogue

open Text

/-- The text comes before the other one. -/
def Text.Before (s t : Text) : Prop := noLater s t = true ∧ s ≠ t

namespace Catalog

variable {c : Catalog} {cs : List Contract} {k : Contract} {table t : Table Contract}
  {aliases : List (Text × Text)}

/-! ## What a catalog is made from -/

/-- The catalog has the contracts, each under its lower-case name, and no two under one. -/
structure Holds (c : Catalog) (cs : List Contract) : Prop where
  table_eq : c.table = cs.map fun k => (lower k.name, k)
  nodup : (cs.map fun k => lower k.name).Nodup

theorem keys_entered (table : Table Contract) (k : Contract) :
    Table.keys (table ++ [(lower k.name, k)]) = table.keys ++ [lower k.name] := by
  rw [Table.keys, List.map_append]
  rfl

/-- A contract that is entered is entered under a new name. -/
theorem nodup_entered (hkeys : table.keys.Nodup) (hnew : ¬ table.has (lower k.name) = true) :
    (Table.keys (table ++ [(lower k.name, k)])).Nodup := by
  have hnot : lower k.name ∉ table.keys := by
    rw [← Table.get?_eq_none_iff]
    simpa [Table.has] using hnew
  rw [keys_entered, List.nodup_append]
  refine ⟨hkeys, List.pairwise_singleton _ _, fun a ha b hb => ?_⟩
  rintro rfl
  exact hnot (List.mem_singleton.mp hb ▸ ha)

/-- Contracts that are all entered stand behind those that were there, and under new names. -/
theorem enter_eq_ok (h : enter table cs = .ok t) (hkeys : table.keys.Nodup) :
    t = table ++ cs.map (fun k => (lower k.name, k)) ∧ t.keys.Nodup := by
  induction cs generalizing table with
  | nil =>
    obtain rfl := Except.ok.inj h
    exact ⟨(List.append_nil _).symm, hkeys⟩
  | cons k cs ih =>
    rw [enter] at h
    split_ifs at h with hhas
    obtain ⟨rfl, hall⟩ := ih h (nodup_entered hkeys hhas)
    exact ⟨by rw [List.append_assoc]; rfl, hall⟩

/-- **A catalog holds the contracts that it was made from.** -/
theorem holds_ofContracts (h : ofContracts cs aliases = .ok c) : c.Holds cs := by
  rw [ofContracts] at h
  cases hentered : enter [] cs with
  | error e =>
    rw [hentered] at h
    cases h
  | ok table =>
    rw [hentered] at h
    obtain rfl := Except.ok.inj h
    obtain ⟨htable, hkeys⟩ := enter_eq_ok hentered List.nodup_nil
    rw [List.nil_append] at htable
    refine ⟨htable, ?_⟩
    rw [htable, Table.keys, List.map_map] at hkeys
    exact hkeys

theorem holds_standard : standard.Holds Standard.contracts := ⟨rfl, by decide +kernel⟩

/-- The contracts that are looked up in when a catalog of the given ones is asked for: the standard
ones when none are given. -/
def held (cs : List Contract) : List Contract := if cs.isEmpty then Standard.contracts else cs

theorem holds_orElse (h : ofContracts cs aliases = .ok c) :
    (c.orElse standard).Holds (held cs) := by
  have hholds := holds_ofContracts h
  have hempty : c.table.isEmpty = cs.isEmpty := by rw [hholds.table_eq, List.isEmpty_map]
  rw [orElse, held, hempty]
  split_ifs
  · exact holds_standard
  · exact hholds

/-! ## Finding and listing -/

namespace Holds

theorem keys_eq (h : c.Holds cs) : c.table.keys = cs.map fun k => lower k.name := by
  rw [h.table_eq, Table.keys, List.map_map]
  rfl

theorem keys_nodup (h : c.Holds cs) : c.table.keys.Nodup := h.keys_eq ▸ h.nodup

/-- **Each contract is found under its name.** -/
theorem find?_name (h : c.Holds cs) (hk : k ∈ cs) : c.find? k.name = some k := by
  have hmem : (lower k.name, k) ∈ c.table := by
    rw [h.table_eq]
    exact List.mem_map.mpr ⟨k, hk, rfl⟩
  exact Table.get?_of_mem h.keys_nodup hmem

theorem contracts_perm (h : c.Holds cs) : c.contracts.Perm cs := by
  have hvalues : c.table.map Prod.snd = cs := by simp [h.table_eq, Function.comp_def]
  rw [contracts, hvalues]
  exact List.mergeSort_perm cs nameLE

/-- **The listing is strictly ascending** by lower-case name. -/
theorem pairwise_contracts (h : c.Holds cs) :
    c.contracts.Pairwise fun k l => Before (lower k.name) (lower l.name) := by
  have hsorted : c.contracts.Pairwise fun k l => noLater (lower k.name) (lower l.name) = true := by
    refine List.pairwise_mergeSort (fun a b d hab hbd => ?_) (fun a b => ?_) _
    · exact noLater_trans hab hbd
    · rw [Bool.or_eq_true]
      exact noLater_total _ _
  have hdistinct : c.contracts.Pairwise fun k l => lower k.name ≠ lower l.name := by
    have hnodup := (h.contracts_perm.map fun k => lower k.name).nodup_iff.mpr h.nodup
    exact List.pairwise_map.mp hnodup
  exact hsorted.and hdistinct

end Holds

end Catalog

end Dialogue
