import Dialogue.Text.Basic

/-!
# Tables

A table keeps its entries in the order in which their keys were first entered. Labels, variables,
symbols, options and catalogs are tables; unless another type is named, the keys are texts.

* `Table.get?`: the value under a key;
* `Table.put`: enter a value, in the place the key already has if it has one;
* `Table.putNew`: enter a value unless the key has one.

`get?_put` and `get?_putNew` say what a table holds after an entry, `keys_put` and `keys_putNew`
that only a new key is added, at the end.
-/

namespace Dialogue

/-- Entries in the order of their first entering. -/
abbrev Table (α : Type) (κ : Type := Text) := List (κ × α)

namespace Table

variable {α κ : Type} [DecidableEq κ]

/-- The value under a key. -/
def get? (t : Table α κ) (key : κ) : Option α := t.lookup key

/-- The keys in order. -/
def keys (t : Table α κ) : List κ := t.map Prod.fst

/-- Whether the table has the key. -/
def has (t : Table α κ) (key : κ) : Bool := (t.get? key).isSome

/-- Enters a value; a key that is there keeps its place and loses its old value. -/
def put (key : κ) (value : α) : Table α κ → Table α κ
  | [] => [(key, value)]
  | e :: r => if e.1 = key then (key, value) :: r else e :: put key value r

/-- Enters a value unless the key is there. -/
def putNew (key : κ) (value : α) : Table α κ → Table α κ
  | [] => [(key, value)]
  | e :: r => if e.1 = key then e :: r else e :: putNew key value r

theorem get?_nil (key : κ) : get? ([] : Table α κ) key = none := rfl

theorem get?_cons (e : κ × α) (t : Table α κ) (key : κ) :
    get? (e :: t : Table α κ) key = if e.1 = key then some e.2 else get? t key := by
  unfold get?
  rw [List.lookup_cons]
  by_cases h : e.1 = key
  · simp [h]
  · have h' : (key == e.1) = false := by simpa using fun h2 => h h2.symm
    simp [h, h']

theorem get?_put (key : κ) (value : α) (t : Table α κ) (k : κ) :
    get? (put key value t) k = if key = k then some value else get? t k := by
  induction t with
  | nil => simp [put, get?_cons, get?_nil]
  | cons e r ih =>
    unfold put
    by_cases h : e.1 = key
    · by_cases hk : key = k <;> simp [h, hk, get?_cons]
    · by_cases hk : key = k
      · subst hk; simp [h, get?_cons, ih]
      · simp [h, hk, get?_cons, ih]

theorem get?_putNew (key : κ) (value : α) (t : Table α κ) (k : κ) :
    get? (putNew key value t) k = if key = k then some ((get? t k).getD value) else get? t k := by
  induction t with
  | nil => by_cases hk : key = k <;> simp [putNew, get?_cons, get?_nil, hk]
  | cons e r ih =>
    unfold putNew
    by_cases h : e.1 = key
    · by_cases hk : key = k <;> simp [h, hk, get?_cons]
    · by_cases hk : key = k
      · subst hk; simp [h, get?_cons, ih]
      · simp [h, hk, get?_cons, ih]

theorem mem_of_get? {t : Table α κ} {key : κ} {value : α} (h : get? t key = some value) :
    (key, value) ∈ t := by
  induction t with
  | nil => simp [get?_nil] at h
  | cons e r ih =>
    rw [get?_cons] at h
    split at h
    · rename_i hk
      rw [← Option.some.inj h, ← hk]
      exact List.mem_cons_self
    · exact List.mem_cons_of_mem e (ih h)

theorem get?_eq_none_iff (t : Table α κ) (key : κ) : get? t key = none ↔ key ∉ keys t := by
  induction t with
  | nil => simp [get?_nil, keys]
  | cons e r ih =>
    by_cases h : e.1 = key
    · simp [get?_cons, keys, h]
    · have h' : ¬ key = e.1 := fun h2 => h h2.symm
      simpa [get?_cons, keys, h, h'] using ih

theorem keys_put (key : κ) (value : α) (t : Table α κ) :
    keys (put key value t) = if key ∈ keys t then keys t else keys t ++ [key] := by
  induction t with
  | nil => simp [put, keys]
  | cons e r ih =>
    unfold put
    by_cases h : e.1 = key
    · simp [keys, h]
    · have h' : ¬ key = e.1 := fun h2 => h h2.symm
      by_cases hm : key ∈ keys r
      · simp only [keys, h, if_false, List.map_cons, List.mem_cons, h', false_or] at *
        simp [hm, ih]
      · simp only [keys, h, if_false, List.map_cons, List.mem_cons, h', false_or] at *
        simp [hm, ih]

theorem keys_putNew (key : κ) (value : α) (t : Table α κ) :
    keys (putNew key value t) = if key ∈ keys t then keys t else keys t ++ [key] := by
  induction t with
  | nil => simp [putNew, keys]
  | cons e r ih =>
    unfold putNew
    by_cases h : e.1 = key
    · simp [keys, h]
    · have h' : ¬ key = e.1 := fun h2 => h h2.symm
      by_cases hm : key ∈ keys r
      · simp only [keys, h, if_false, List.map_cons, List.mem_cons, h', false_or] at *
        simp [hm, ih]
      · simp only [keys, h, if_false, List.map_cons, List.mem_cons, h', false_or] at *
        simp [hm, ih]

end Table

end Dialogue
