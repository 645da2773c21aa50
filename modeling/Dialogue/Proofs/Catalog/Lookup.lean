import Dialogue.Editor.Description
import Dialogue.Proofs.Catalog.Listing
import Mathlib.Order.Bounds.Basic

/-!
# How a catalog is made and asked

Contracts are entered one after the other, each under its name in lower case, and the first one
whose name is already there is refused. So there is no catalog of contracts two of which have the
same name, and in a catalog each name belongs to one contract, however it is asked for.

* `Repeats`: the places of contracts whose names occur before them;
* `enter_eq_error`: the contract that is refused stands behind others with names of their own;
* `Finds`, `Lacks`: all the ways of asking for a command agree on its contract, or that it has none;
* `Holds.filter_eq`: what is found is all that the contracts have under the name;
* **`ofContracts_answers`**: when contracts make a catalog, which one is refused when they do not, and
  what the catalog answers when they do.
-/

namespace Dialogue

open Text

/-- The description shows all of the contract, its parameters in their order. -/
structure Description.Shows (d : Description) (k : Contract) : Prop where
  name : d.name = k.name
  description : d.description = k.description
  since : d.since = k.since
  games : d.games = k.games
  required : d.required = k.required
  trailing : d.trailing = k.trailing
  optional : d.optional = k.optional
  docUrl : d.docUrl = k.docUrl

namespace Catalog

variable {c : Catalog} {cs before after : List Contract} {k : Contract} {table : Table Contract}
  {aliases : List (Text × Text)} {e : DuplicateName} {j : Nat}

/-! ## Names that repeat -/

/-- The contract at the place has the lower-case name of one before it. -/
def Repeats (cs : List Contract) (j : Nat) : Prop :=
  ∃ i < j, ∃ k l, cs[i]? = some k ∧ cs[j]? = some l ∧ lower k.name = lower l.name

theorem repeats_length (hmem : lower k.name ∈ before.map fun k => lower k.name) :
    Repeats (before ++ k :: after) before.length := by
  obtain ⟨l, hl, hname⟩ := List.mem_map.mp hmem
  obtain ⟨i, hi⟩ := List.mem_iff_getElem?.mp hl
  have hlt : i < before.length := (List.getElem?_eq_some_iff.mp hi).1
  exact ⟨i, hlt, l, k, by rw [List.getElem?_append_left hlt, hi], by simp, hname⟩

/-- Among the first contracts no name repeats when they all have names of their own. -/
theorem not_repeats_of_nodup (hnodup : (before.map fun k => lower k.name).Nodup)
    (hj : j < before.length) : ¬ Repeats (before ++ after) j := by
  rintro ⟨i, hi, k, l, hk, hl, hname⟩
  rw [List.getElem?_append_left (hi.trans hj)] at hk
  rw [List.getElem?_append_left hj] at hl
  have hsame : (before.map fun k => lower k.name)[i]? = (before.map fun k => lower k.name)[j]? := by
    rw [List.getElem?_map, List.getElem?_map, hk, hl, Option.map_some, Option.map_some, hname]
  have hlt : i < (before.map fun k => lower k.name).length := by
    rw [List.length_map]
    exact hi.trans hj
  exact hi.ne ((List.getElem?_inj hlt hnodup).mp hsame)

/-! ## Contracts that are refused -/

/-- **The contract that is refused** has a name that is there already, and all before it were entered
under new names. -/
theorem enter_eq_error (h : enter table cs = .error e) (hkeys : table.keys.Nodup) :
    ∃ before k after, cs = before ++ k :: after ∧ e = ⟨k.name⟩ ∧
      lower k.name ∈ table.keys ++ before.map (fun k => lower k.name) ∧
      (table.keys ++ before.map fun k => lower k.name).Nodup := by
  induction cs generalizing table with
  | nil => cases h
  | cons k cs ih =>
    rw [enter] at h
    split_ifs at h with hhas
    · have hthere : lower k.name ∈ table.keys := by
        by_contra hnot
        rw [← Table.get?_eq_none_iff] at hnot
        simp [Table.has, hnot] at hhas
      exact ⟨[], k, cs, rfl, (Except.error.inj h).symm, List.mem_append_left _ hthere,
        by rwa [List.map_nil, List.append_nil]⟩
    · obtain ⟨before, l, after, rfl, he, hmem, hnodup⟩ := ih h (nodup_entered hkeys hhas)
      rw [keys_entered, List.append_assoc] at hmem hnodup
      exact ⟨k :: before, l, after, rfl, he, hmem, hnodup⟩

/-- The contract that is refused is the first one whose name occurs before it. -/
theorem isLeast_of_refused (h : ofContracts cs aliases = .error e) :
    ∃ j k, IsLeast {i | Repeats cs i} j ∧ cs[j]? = some k ∧ e = ⟨k.name⟩ := by
  have hentered : enter [] cs = .error e := by
    rw [ofContracts] at h
    cases hentered : enter [] cs with
    | error e' =>
      rw [hentered] at h
      exact congrArg Except.error (Except.error.inj h)
    | ok table =>
      rw [hentered] at h
      cases h
  obtain ⟨before, k, after, rfl, rfl, hmem, hnodup⟩ := enter_eq_error hentered List.nodup_nil
  refine ⟨before.length, k, ⟨repeats_length hmem, fun j hj => ?_⟩, by simp, rfl⟩
  exact Nat.le_of_not_lt fun hlt => not_repeats_of_nodup hnodup hlt hj

/-- **Contracts make no catalog exactly when a name repeats.** -/
theorem ofContracts_refused_iff : (∃ e, ofContracts cs aliases = .error e) ↔ ∃ j, Repeats cs j := by
  constructor
  · rintro ⟨e, he⟩
    obtain ⟨j, -, hj, -⟩ := isLeast_of_refused he
    exact ⟨j, hj.1⟩
  · rintro ⟨j, hj⟩
    cases hmade : ofContracts cs aliases with
    | error e => exact ⟨e, rfl⟩
    | ok c =>
      have hlt : j < cs.length := by
        obtain ⟨-, -, -, l, -, hl, -⟩ := hj
        exact (List.getElem?_eq_some_iff.mp hl).1
      rw [← List.append_nil cs] at hj
      exact absurd hj (not_repeats_of_nodup (holds_ofContracts hmade).nodup hlt)

/-! ## Asking -/

/-- However the command is asked for, it has the contract. -/
structure Finds (c : Catalog) (command : Text) (k : Contract) : Prop where
  find?_eq : c.find? command = some k
  get_eq : c.get command = .ok k
  has_eq : c.has command = true
  describe : ∃ d, c.describe command = some d ∧ d.Shows k

/-- However the command is asked for, it has no contract. -/
structure Lacks (c : Catalog) (command : Text) : Prop where
  find?_eq : c.find? command = none
  get_eq : c.get command = .error ⟨lower command⟩
  has_eq : c.has command = false
  describe : c.describe command = none

theorem finds_of_find? {command : Text} (h : c.find? command = some k) : c.Finds command k := by
  have hget : c.get command = .ok k := by rw [get, h]
  refine ⟨h, hget, by rw [has, hget], k.describe, by rw [Catalog.describe, h, Option.map_some], ?_⟩
  exact ⟨rfl, rfl, rfl, rfl, rfl, rfl, rfl, rfl⟩

theorem lacks_of_find? {command : Text} (h : c.find? command = none) : c.Lacks command := by
  have hget : c.get command = .error ⟨lower command⟩ := by rw [get, h]
  exact ⟨h, hget, by rw [has, hget], by rw [Catalog.describe, h, Option.map_none]⟩

/-- **What is found is all that the contracts have** under the name in lower case. -/
theorem Holds.filter_eq (h : c.Holds cs) (command : Text) :
    cs.filter (fun k => lower k.name = lower command) = (c.find? command).toList := by
  have hall : c.table.getAll (lower command) =
      cs.filter fun k => lower k.name = lower command := by
    simp [Table.getAll, h.table_eq, List.filter_map, Function.comp_def]
  rw [← hall, find?, Table.getAll_of_nodup h.keys_nodup]

/-- A command that is asked for has one contract, or none. -/
theorem Holds.answers (h : c.Holds cs) (command : Text) :
    (∃ k, cs.filter (fun k => lower k.name = lower command) = [k] ∧ c.Finds command k) ∨
      (cs.filter (fun k => lower k.name = lower command) = [] ∧ c.Lacks command) := by
  have hfilter := h.filter_eq command
  cases hfind : c.find? command with
  | some k =>
    rw [hfind] at hfilter
    exact .inl ⟨k, hfilter, finds_of_find? hfind⟩
  | none =>
    rw [hfind] at hfilter
    exact .inr ⟨hfilter, lacks_of_find? hfind⟩

/-- **How a catalog is made of contracts, and what it answers.** Contracts are refused exactly when two
of them have the same name in lower case, and the name that is reported is that of the first one whose
name occurs before it. Any other contracts make a catalog. Asked for a command in whatever letters, it
finds the one contract with this name in lower case, with all that stands in it, or says in every way
that there is none. It has as many commands as there are contracts and names them in their order, in
lower case; and its listing has each contract once, strictly ascending by lower-case name. -/
theorem ofContracts_answers (cs : List Contract) (aliases : List (Text × Text)) :
    ((∃ e, ofContracts cs aliases = .error e) ↔ ∃ j, Repeats cs j) ∧
    (∀ e, ofContracts cs aliases = .error e →
      ∃ j k, IsLeast {i | Repeats cs i} j ∧ cs[j]? = some k ∧ e = ⟨k.name⟩) ∧
    ∀ c, ofContracts cs aliases = .ok c →
      (∀ command,
        (∃ k, cs.filter (fun k => lower k.name = lower command) = [k] ∧ c.Finds command k) ∨
          (cs.filter (fun k => lower k.name = lower command) = [] ∧ c.Lacks command)) ∧
      c.size = cs.length ∧ c.names = cs.map (fun k => lower k.name) ∧ c.contracts.Perm cs ∧
      c.contracts.Pairwise fun k l => Before (lower k.name) (lower l.name) := by
  refine ⟨ofContracts_refused_iff, fun e he => isLeast_of_refused he, fun c hmade => ?_⟩
  have h := holds_ofContracts hmade
  exact ⟨h.answers, by rw [size, h.table_eq, List.length_map], h.keys_eq, h.contracts_perm,
    h.pairwise_contracts⟩

/-- Contracts of which the third one spells the first one's name in capitals. -/
def spelled : List Contract :=
  ["Stra\u00DFe", "\u039F\u0394\u039F\u03A3", "STRA\u00DFE", "\u03BF\u03B4\u03BF\u03C2"].map
    fun name => { name := ofString name, since := [] }

theorem ofContracts_answers_spelled :
    (∃ j k, ofContracts spelled [] = .error ⟨k.name⟩ ∧ IsLeast {i | Repeats spelled i} j ∧
      spelled[j]? = some k ∧ k.name = ofString "STRA\u00DFE") ∧
    ∃ c, ofContracts (spelled.take 2) [] = .ok c ∧
      (∃ k, k ∈ spelled ∧ c.Finds (ofString "\u03BF\u03B4\u03BF\u03C2") k) ∧
      c.Lacks (ofString "\u03BF\u03B4\u03BF\u03C3") ∧ c.size = 2 := by
  have hrefused : ofContracts spelled [] = .error ⟨ofString "STRA\u00DFE"⟩ := by rfl
  have hmade : ofContracts (spelled.take 2) [] =
      .ok ⟨(spelled.take 2).map fun k => (lower k.name, k), []⟩ := by rfl
  obtain ⟨j, k, hj, hk, he⟩ := (ofContracts_answers spelled []).2.1 _ hrefused
  obtain ⟨hanswers, hsize, -⟩ := (ofContracts_answers (spelled.take 2) []).2.2 _ hmade
  refine ⟨⟨j, k, he ▸ hrefused, hj, hk, (DuplicateName.mk.inj he).symm⟩, _, hmade, ?_, ?_, hsize⟩
  · obtain ⟨k, hall, hk⟩ | ⟨hall, -⟩ := hanswers (ofString "\u03BF\u03B4\u03BF\u03C2")
    · have hmem := (List.mem_filter.mp (hall ▸ List.mem_singleton_self k)).1
      exact ⟨k, List.mem_of_mem_take hmem, hk⟩
    · exact absurd hall (by decide +kernel)
  · obtain ⟨k, hall, -⟩ | ⟨-, h⟩ := hanswers (ofString "\u03BF\u03B4\u03BF\u03C3")
    · have hnone : (spelled.take 2).filter (fun k => lower k.name =
          lower (ofString "\u03BF\u03B4\u03BF\u03C3")) = [] := by decide +kernel
      exact absurd (hnone.symm.trans hall) (List.cons_ne_nil _ _).symm
    · exact h

end Catalog

end Dialogue
