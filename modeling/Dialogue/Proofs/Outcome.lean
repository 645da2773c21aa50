import Mathlib.Data.List.Forall2

/-!
# Computations that may be refused

What a chain of computations returned, step by step: a chain returned a value iff each of its links
returned one, and so does a row of computations (`mapM_eq_ok_iff`). A chain was refused for what its
first link was refused for, else for what the rest of the chain was (`refusal?_bind`).
-/

namespace Dialogue

variable {ε α β : Type}

theorem bind_eq_ok_iff {x : Except ε α} {f : α → Except ε β} {b : β} :
    (x >>= f) = .ok b ↔ ∃ a, x = .ok a ∧ f a = .ok b := by
  cases x with
  | error e => simp [bind, Except.bind]
  | ok a => simp [bind, Except.bind]

theorem map_eq_ok_iff {x : Except ε α} {f : α → β} {b : β} :
    x.map f = .ok b ↔ ∃ a, x = .ok a ∧ f a = b := by
  cases x with
  | error e => simp [Except.map]
  | ok a => simp [Except.map]

theorem pure_eq_ok_iff {a b : α} : (pure a : Except ε α) = .ok b ↔ a = b := by
  simp [pure, Except.pure]

/-! ## Rows -/

/-- What a row of computations returns are the results of each. -/
theorem mapM_eq_ok_iff {f : α → Except ε β} {as : List α} {bs : List β} :
    as.mapM f = .ok bs ↔ List.Forall₂ (fun a b => f a = .ok b) as bs := by
  induction as generalizing bs with
  | nil =>
    rw [List.mapM_nil, pure_eq_ok_iff, List.forall₂_nil_left_iff]
    exact eq_comm
  | cons a as ih =>
    rw [List.mapM_cons, List.forall₂_cons_left_iff]
    simp only [bind_eq_ok_iff, pure_eq_ok_iff, ih]
    constructor
    · rintro ⟨b, hb, cs, hcs, rfl⟩
      exact ⟨b, cs, hb, hcs, rfl⟩
    · rintro ⟨b, cs, hb, hcs, rfl⟩
      exact ⟨b, hb, cs, hcs, rfl⟩

/-- **A row of computations returns iff each of them does.** -/
theorem exists_mapM_eq_ok_iff {f : α → Except ε β} {as : List α} :
    (∃ bs, as.mapM f = .ok bs) ↔ ∀ a ∈ as, ∃ b, f a = .ok b := by
  simp only [mapM_eq_ok_iff]
  induction as with
  | nil => simp
  | cons a as ih =>
    rw [List.forall_mem_cons, ← ih]
    simp only [List.forall₂_cons_left_iff]
    constructor
    · rintro ⟨_, b, bs, hb, hbs, -⟩
      exact ⟨⟨b, hb⟩, bs, hbs⟩
    · rintro ⟨⟨b, hb⟩, bs, hbs⟩
      exact ⟨b :: bs, b, bs, hb, hbs, rfl⟩

theorem mem_of_mapM_eq_ok {f : α → Except ε β} {as : List α} {bs : List β}
    (h : as.mapM f = .ok bs) {a : α} {b : β} (ha : a ∈ as) (hb : f a = .ok b) : b ∈ bs := by
  induction mapM_eq_ok_iff.mp h with
  | nil => cases ha
  | cons hhead hrest ih =>
    rcases List.mem_cons.mp ha with rfl | ha
    · rw [hhead, Except.ok.injEq] at hb
      exact hb ▸ List.mem_cons_self
    · exact List.mem_cons_of_mem _ (ih (mapM_eq_ok_iff.mpr hrest) ha)

/-! ## Refusals -/

/-- What a computation was refused for. -/
def refusal? : Except ε α → Option ε
  | .error e => some e
  | .ok _ => none

theorem refusal?_eq_some_iff {x : Except ε α} {e : ε} : refusal? x = some e ↔ x = .error e := by
  cases x with
  | error e' => simp [refusal?]
  | ok a => simp [refusal?]

theorem refusal?_map (x : Except ε α) (f : α → β) : refusal? (x.map f) = refusal? x := by
  cases x <;> rfl

/-- When the rest of a chain is refused for the same whatever it is given, the chain is refused for
what comes first. -/
theorem refusal?_bind {x : Except ε α} {f : α → Except ε β} {rest : Option ε}
    (h : ∀ a, refusal? (f a) = rest) : refusal? (x >>= f) = (refusal? x).or rest := by
  cases x with
  | error e => rfl
  | ok a => exact h a

end Dialogue
