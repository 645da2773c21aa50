import Dialogue.Table

/-!
# Tables with other values

A function on values acts on a table and leaves its keys and their order alone, so that entering and
looking up are the same before and after it.

* `Table.mapValues`: the table with a function done to each value;
* `get?_mapValues`, `put_mapValues`, `putNew_mapValues`: what is looked up and entered;
* `mem_put`: what an entry leaves in a table;
* `put_of_get?`: entering what is there already changes nothing;
* `put_of_not_mem`, `foldl_put_append`: new keys come last, so that a table is made of its entries;
* `get?_of_mem`: an entry is found under its key when no other has that key;
* `Table.putNewAll`, `get?_putNewAll`: of many entries that are made unless the key is there, the
  first one counts;
* `Table.getAll`: the values under a key, where it is entered more than once. The first one is found
  (`get?_eq_head?`), and where no key is entered twice there is no other (`getAll_of_nodup`).
-/

namespace Dialogue.Table

variable {α γ κ : Type} [DecidableEq κ]

/-- The table with `f` done to each value. -/
def mapValues (f : α → γ) (t : Table α κ) : Table γ κ := t.map fun e => (e.1, f e.2)

theorem get?_mapValues (f : α → γ) (t : Table α κ) (key : κ) :
    (t.mapValues f).get? key = (t.get? key).map f := by
  induction t with
  | nil => rfl
  | cons e r ih =>
    rw [mapValues, List.map_cons, get?_cons, get?_cons]
    by_cases h : e.1 = key
    · simp only [if_pos h, Option.map_some]
    · simp only [if_neg h]
      exact ih

theorem put_mapValues (f : α → γ) (key : κ) (value : α) (t : Table α κ) :
    (t.mapValues f).put key (f value) = (t.put key value).mapValues f := by
  induction t with
  | nil => rfl
  | cons e r ih =>
    simp only [mapValues, List.map_cons, put] at ih ⊢
    by_cases h : e.1 = key
    · simp only [if_pos h, List.map_cons]
    · simp only [if_neg h, List.map_cons, ih]

theorem putNew_mapValues (f : α → γ) (key : κ) (value : α) (t : Table α κ) :
    (t.mapValues f).putNew key (f value) = (t.putNew key value).mapValues f := by
  induction t with
  | nil => rfl
  | cons e r ih =>
    simp only [mapValues, List.map_cons, putNew] at ih ⊢
    by_cases h : e.1 = key
    · simp only [if_pos h, List.map_cons]
    · simp only [if_neg h, List.map_cons, ih]

/-- What is in a table after an entry was made is that entry, or was there before. -/
theorem mem_put {t : Table α κ} {key : κ} {value : α} {e : κ × α} (he : e ∈ t.put key value) :
    e = (key, value) ∨ e ∈ t := by
  induction t with
  | nil => exact .inl (List.mem_singleton.mp he)
  | cons f r ih =>
    rw [put] at he
    by_cases hkey : f.1 = key
    · rw [if_pos hkey] at he
      exact (List.mem_cons.mp he).imp_right (List.mem_cons_of_mem f)
    · rw [if_neg hkey] at he
      rcases List.mem_cons.mp he with rfl | he
      · exact .inr List.mem_cons_self
      · exact (ih he).imp_right (List.mem_cons_of_mem f)

/-- Entering what is there already changes nothing. -/
theorem put_of_get? {t : Table α κ} {key : κ} {value : α} (h : t.get? key = some value) :
    t.put key value = t := by
  induction t with
  | nil => cases h
  | cons e r ih =>
    rw [get?_cons] at h
    rw [put]
    by_cases hkey : e.1 = key
    · rw [if_pos hkey] at h ⊢
      rw [← hkey, ← Option.some.inj h]
    · rw [if_neg hkey] at h ⊢
      rw [ih h]

/-- What is entered under a new key comes last. -/
theorem put_of_not_mem {t : Table α κ} {key : κ} (h : key ∉ t.keys) (value : α) :
    t.put key value = t ++ [(key, value)] := by
  induction t with
  | nil => rfl
  | cons e r ih =>
    obtain ⟨hne, hrest⟩ := List.ne_and_not_mem_of_not_mem_cons h
    rw [put, if_neg hne.symm, ih hrest, List.cons_append]

/-- Entries under different keys make the table that has them in their order. -/
theorem foldl_put_append {entries t : Table α κ} (h : (t ++ entries).keys.Nodup) :
    entries.foldl (fun t e => t.put e.1 e.2) t = t ++ entries := by
  induction entries generalizing t with
  | nil => rw [List.foldl_nil, List.append_nil]
  | cons e r ih =>
    have hnew : e.1 ∉ t.keys := by
      rw [keys, List.map_append, List.map_cons] at h
      intro hmem
      exact (List.nodup_append.mp h).2.2 e.1 hmem e.1 List.mem_cons_self rfl
    have hentered : t.put e.1 e.2 = t ++ [e] := put_of_not_mem hnew e.2
    rw [List.foldl_cons, hentered, ih (by rwa [List.append_assoc]), List.append_assoc]
    rfl

/-- Where no key is entered twice, every entry is found under its key. -/
theorem get?_of_mem {t : Table α κ} (h : t.keys.Nodup) {e : κ × α} (he : e ∈ t) :
    t.get? e.1 = some e.2 := by
  induction t with
  | nil => cases he
  | cons f r ih =>
    obtain ⟨hnew, hrest⟩ := List.nodup_cons.mp h
    rw [get?_cons]
    rcases List.mem_cons.mp he with rfl | he
    · rw [if_pos rfl]
    · have hne : f.1 ≠ e.1 := fun hsame => hnew (hsame ▸ List.mem_map_of_mem he)
      rw [if_neg hne, ih hrest he]

/-- What keys there are after an entry depends on the keys alone. -/
theorem keys_putNew_congr {t : Table α κ} {u : Table γ κ} (h : t.keys = u.keys) (key : κ)
    (value : α) (value' : γ) : (t.putNew key value).keys = (u.putNew key value').keys := by
  rw [keys_putNew, keys_putNew, h]

theorem get?_append (s t : Table α κ) (key : κ) :
    get? (s ++ t) key = (s.get? key).or (t.get? key) := by
  induction s with
  | nil => rw [List.nil_append, get?_nil, Option.none_or]
  | cons e r ih =>
    rw [List.cons_append, get?_cons, get?_cons, ih]
    by_cases h : e.1 = key
    · rw [if_pos h, if_pos h, Option.some_or]
    · rw [if_neg h, if_neg h]

/-- The table after entries that are made one after the other, each unless its key is there. -/
def putNewAll (t : Table α κ) : List (κ × α) → Table α κ
  | [] => t
  | e :: rest => (t.putNew e.1 e.2).putNewAll rest

/-- Of such entries the first one counts. -/
theorem get?_putNewAll (entries t : Table α κ) (key : κ) :
    (t.putNewAll entries).get? key = (t.get? key).or (entries.get? key) := by
  induction entries generalizing t with
  | nil => rw [putNewAll, get?_nil, Option.or_none]
  | cons e rest ih =>
    rw [putNewAll, ih, get?_putNew, get?_cons]
    by_cases h : e.1 = key
    · rw [if_pos h, if_pos h, Option.some_or]
      cases t.get? key <;> rfl
    · rw [if_neg h, if_neg h]

/-- The values under a key, in order. -/
def getAll (t : Table α κ) (key : κ) : List α := (t.filter fun e => e.1 = key).map Prod.snd

theorem mem_getAll_iff {t : Table α κ} {key : κ} {value : α} :
    value ∈ t.getAll key ↔ (key, value) ∈ t := by
  simp [getAll]

/-- Of the values under a key the first one is found. -/
theorem get?_eq_head? (t : Table α κ) (key : κ) : t.get? key = (t.getAll key).head? := by
  induction t with
  | nil => rfl
  | cons e r ih =>
    rw [get?_cons, ih, getAll, getAll, List.filter_cons]
    by_cases h : e.1 = key
    · rw [if_pos h, if_pos (decide_eq_true h)]
      rfl
    · rw [if_neg h, if_neg fun hsame => h (of_decide_eq_true hsame)]

theorem getAll_eq_nil_iff {t : Table α κ} {key : κ} : t.getAll key = [] ↔ key ∉ t.keys := by
  rw [← get?_eq_none_iff, get?_eq_head?, List.head?_eq_none_iff]

/-- **Where no key is entered twice**, what is found is all that is entered. -/
theorem getAll_of_nodup {t : Table α κ} (h : t.keys.Nodup) (key : κ) :
    t.getAll key = (t.get? key).toList := by
  induction t with
  | nil => rfl
  | cons e r ih =>
    obtain ⟨hnew, hrest⟩ := List.nodup_cons.mp h
    rw [get?_cons, getAll, List.filter_cons]
    by_cases hkey : e.1 = key
    · have hnone : getAll r key = [] := getAll_eq_nil_iff.mpr (hkey ▸ hnew)
      rw [if_pos hkey, if_pos (decide_eq_true hkey), List.map_cons]
      exact congrArg (e.2 :: ·) hnone
    · rw [if_neg hkey, if_neg fun hsame => hkey (of_decide_eq_true hsame)]
      exact ih hrest

end Dialogue.Table
