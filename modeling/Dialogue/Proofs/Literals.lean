import Dialogue.Proofs.Lint.Binding
import Dialogue.Proofs.Machine.Assignment

/-!
# The literals of linter and machine

The linter tells the literals of each type by their form, the machine reads them in another order,
and a declaring command reads their text once more. All three agree: what the linter accepts for a
type is read as a value of that type, and the command of that type stores this value.

* `Lint.matchesType_iff`: the linter accepts for a type the literals of its values, and for a string
  also what is interpolated;
* `ofToken_eq_ofScalar_iff`: what the machine reads as an integer or a truth value is a literal of it,
  and with that it is what the linter accepts (`Lint.matchesType_iff_ofToken`);
* `Denotes.exists_reads`: the command of its type reads a literal as the value that it stands for;
* **`literals_agree`**: the three readings together.
-/

namespace Dialogue

open Text Script Machine

variable {t : Text} {value : Scalar}

/-! ## Literals and their types -/

/-- **The linter accepts the literals of a type**, and for a string also what is interpolated. -/
theorem Lint.matchesType_iff {type : ParamType} : matchesType t type = true ↔
    (∃ value, valueType value = type ∧ Denotes t value) ∨
      type = .string ∧ ∃ body, t = interpolated body := by
  constructor
  · intro h
    cases type with
    | string =>
      rcases Bool.or_eq_true_iff.mp h with h | h
      · obtain ⟨body, hbody⟩ := Option.isSome_iff_exists.mp h
        obtain rfl := quotedBody?_eq_some_iff.mp hbody
        exact .inl ⟨_, rfl, .quoted body⟩
      · obtain ⟨body, hbody⟩ := Option.isSome_iff_exists.mp h
        exact .inr ⟨rfl, body, interpolatedBody?_eq_some_iff.mp hbody⟩
    | int =>
      obtain ⟨i, hi⟩ := exists_numeral h
      exact .inl ⟨_, rfl, .int hi⟩
    | bool => exact .inl ⟨_, rfl, .of_isBoolWord h⟩
    | other name => cases h
  · rintro (⟨value, rfl, h⟩ | ⟨rfl, body, rfl⟩)
    · cases h with
      | int hi => exact hi.isInteger
      | bool ht => exact ht
      | quoted body =>
        rw [valueType, matchesType, quotedBody?_eq_some_iff.mpr rfl]
        rfl
    · rw [matchesType, interpolatedBody?_eq_some_iff.mpr rfl]
      exact Bool.or_true _

theorem Value.ofScalar_injective {a b : Scalar} (h : ofScalar a = ofScalar b) : a = b := by
  cases a <;> cases b <;> cases h <;> rfl

/-- A literal stands for one value. -/
theorem Denotes.unique {a b : Scalar} (ha : Denotes t a) (hb : Denotes t b) (ht : Trimmed t)
    (hlong : ¬ Overlong t) : a = b :=
  Value.ofScalar_injective (Except.ok.inj ((ha.ofToken ht hlong).symm.trans (hb.ofToken ht hlong)))

/-- What is read as an integer or a truth value is a literal of it. -/
theorem ofToken_eq_ofScalar_iff (hvalue : valueType value ≠ .string) (ht : Trimmed t)
    (hlong : ¬ Overlong t) : Value.ofToken t = .ok (.ofScalar value) ↔ Denotes t value := by
  refine ⟨fun h => ?_, fun h => h.ofToken ht hlong⟩
  have hwritten := (ofToken_eq_ok_iff ht hlong).mp h
  generalize hv : Value.ofScalar value = v at hwritten
  cases hwritten with
  | literal h =>
    obtain rfl := Value.ofScalar_injective hv
    exact h
  | reference | interpolated | bare =>
    cases value with
    | int | bool => cases hv
    | text => exact absurd rfl hvalue

namespace Lint

/-- The linter takes a token for a literal of one type at most. -/
theorem matchesType_unique {type type' : ParamType} (ht : Trimmed t) (hlong : ¬ Overlong t)
    (h : matchesType t type = true) (h' : matchesType t type' = true) : type = type' := by
  rcases matchesType_iff.mp h with ⟨a, rfl, ha⟩ | ⟨rfl, body, hbody⟩
  · rcases matchesType_iff.mp h' with ⟨b, rfl, hb⟩ | ⟨rfl, body, hbody⟩
    · rw [ha.unique hb ht hlong]
    · exact absurd hbody (ha.ne_interpolated body)
  · rcases matchesType_iff.mp h' with ⟨b, rfl, hb⟩ | ⟨rfl, -⟩
    · exact absurd hbody (hb.ne_interpolated body)
    · rfl

theorem referenceName?_of_matchesType {type : ParamType} (h : matchesType t type = true) :
    referenceName? t = none := by
  rcases matchesType_iff.mp h with ⟨value, -, hd⟩ | ⟨-, body, rfl⟩
  · exact hd.referenceName?_eq_none
  · exact referenceName?_interpolated body

theorem matchesType_iff_ofToken {type : ParamType} (htype : type ≠ .string) (ht : Trimmed t)
    (hlong : ¬ Overlong t) : matchesType t type = true ↔
      ∃ value, valueType value = type ∧ Value.ofToken t = .ok (.ofScalar value) := by
  rw [matchesType_iff]
  constructor
  · rintro (⟨value, hvalue, hd⟩ | ⟨hstring, -⟩)
    · exact ⟨value, hvalue, hd.ofToken ht hlong⟩
    · exact absurd hstring htype
  · rintro ⟨value, rfl, h⟩
    exact .inl ⟨value, rfl, (ofToken_eq_ofScalar_iff htype ht hlong).mp h⟩

theorem matchesType_int_iff (ht : Trimmed t) (hlong : ¬ Overlong t) :
    matchesType t .int = true ↔ ∃ i, Value.ofToken t = .ok (.int i) := by
  refine (matchesType_iff_ofToken (by decide) ht hlong).trans ?_
  constructor
  · rintro ⟨value, hvalue, h⟩
    cases value with
    | int i => exact ⟨i, h⟩
    | bool | text => cases hvalue
  · rintro ⟨i, h⟩
    exact ⟨.int i, rfl, h⟩

theorem matchesType_bool_iff (ht : Trimmed t) (hlong : ¬ Overlong t) :
    matchesType t .bool = true ↔ ∃ b, Value.ofToken t = .ok (.bool b) := by
  refine (matchesType_iff_ofToken (by decide) ht hlong).trans ?_
  constructor
  · rintro ⟨value, hvalue, h⟩
    cases value with
    | bool b => exact ⟨b, h⟩
    | int | text => cases hvalue
  · rintro ⟨b, h⟩
    exact ⟨.bool b, rfl, h⟩

/-- The linter takes for a string what the machine reads between double quotes, filled in or not. -/
theorem matchesType_string_iff (ht : Trimmed t) (hlong : ¬ Overlong t) :
    matchesType t .string = true ↔ ∃ body,
      quotedBody? t = some body ∧ Value.ofToken t = .ok (.text (unescape body) false) ∨
        interpolatedBody? t = some body ∧ Value.ofToken t = .ok (.text (unescape body) true) := by
  constructor
  · intro h
    rcases Bool.or_eq_true_iff.mp h with h | h
    · obtain ⟨body, hbody⟩ := Option.isSome_iff_exists.mp h
      obtain rfl := quotedBody?_eq_some_iff.mp hbody
      exact ⟨body, .inl ⟨hbody, (Denotes.quoted body).ofToken ht hlong⟩⟩
    · obtain ⟨body, hbody⟩ := Option.isSome_iff_exists.mp h
      obtain rfl := interpolatedBody?_eq_some_iff.mp hbody
      exact ⟨body, .inr ⟨hbody, ofToken_of_writtenFor (.interpolated body) ht hlong⟩⟩
  · rintro ⟨body, ⟨hbody, -⟩ | ⟨hbody, -⟩⟩
    · exact Bool.or_eq_true_iff.mpr (.inl (Option.isSome_of_eq_some hbody))
    · exact Bool.or_eq_true_iff.mpr (.inr (Option.isSome_of_eq_some hbody))

end Lint

/-! ## Storing literals -/

/-- **A literal is resolved to a text that the command of its type reads as its value.** -/
theorem Denotes.exists_reads (hd : Denotes t value) (ht : Trimmed t) (hlong : ¬ Overlong t)
    (hnone : splitNamed t = none) (vars : Table Variable) :
    ∃ text, resolve vars (Param.ofToken t) = .ok text ∧ Reads text value := by
  have hvalue := hd.ofToken ht hlong
  have hitself : valueType value ≠ .string → (Param.ofToken t).value = t := by
    intro hne
    simp only [Param.ofToken, hnone, stripQuotes, hd.quotedBody?_eq_none hne]
  have hraw : (Param.ofToken t).raw = t := by rw [Param.ofToken, hnone]
  cases value with
  | int i =>
    refine ⟨t, ?_, .int ?_⟩
    · rw [resolve, hraw, hvalue]
      exact congrArg Except.ok (hitself (by simp [valueType]))
    · cases hd with
      | int hi => rw [leadingInteger_eq_integer hi.isInteger, hi.integer hlong]
  | bool b =>
    refine ⟨t, ?_, hd.truth_eq ▸ .bool⟩
    rw [resolve, hraw, hvalue]
    exact congrArg Except.ok (hitself (by simp [valueType]))
  | text text =>
    refine ⟨text, ?_, .text⟩
    rw [resolve, hraw, hvalue]
    rfl

/-- **Linter and machine have the same literals.** At most one of reference, string, integer and
truth value is what the linter takes a token for, and it takes it for one of the last three exactly
when the machine reads it so. What the linter accepts for a type, if no equals sign counts in it and
nothing is filled in, is a literal of that type, and the command that declares the type stores the
value of the literal, whatever the variables are. -/
theorem literals_agree (ht : Trimmed t) (hlong : ¬ Overlong t) :
    (∀ type type', Lint.matchesType t type = true → Lint.matchesType t type' = true →
      type = type') ∧
    (∀ type, Lint.matchesType t type = true → referenceName? t = none) ∧
    (Lint.matchesType t .int = true ↔ ∃ i, Value.ofToken t = .ok (.int i)) ∧
    (Lint.matchesType t .bool = true ↔ ∃ b, Value.ofToken t = .ok (.bool b)) ∧
    (Lint.matchesType t .string = true ↔ ∃ body,
      quotedBody? t = some body ∧ Value.ofToken t = .ok (.text (unescape body) false) ∨
        interpolatedBody? t = some body ∧ Value.ofToken t = .ok (.text (unescape body) true)) ∧
    ∀ type, Lint.matchesType t type = true → splitNamed t = none → interpolatedBody? t = none →
      ∃ value, valueType value = type ∧ Denotes t value ∧
        Value.ofToken t = .ok (.ofScalar value) ∧
        ∀ {ω β : Type} (h : Host ω β) (p : Program) (x : Session ω β) (st : Statement)
          (name : Text), name ≠ [] → st.verb?.bind Verb.declares = some type →
          st.params = [Param.ofToken (enquote name), Param.ofToken t] →
          Assigns h p x st name value := by
  refine ⟨fun type type' => Lint.matchesType_unique ht hlong,
    fun type => Lint.referenceName?_of_matchesType, Lint.matchesType_int_iff ht hlong,
    Lint.matchesType_bool_iff ht hlong, Lint.matchesType_string_iff ht hlong, ?_⟩
  intro type htype hnone hinter
  rcases Lint.matchesType_iff.mp htype with ⟨value, rfl, hd⟩ | ⟨-, body, hbody⟩
  · refine ⟨value, rfl, hd, hd.ofToken ht hlong, fun h p x st name hne hdeclares hparams => ?_⟩
    obtain ⟨text, htext, hreads⟩ := hd.exists_reads ht hlong hnone x.state.vars
    exact assigns_of_reads hdeclares (argument_of_literal hparams)
      ((argument_of_positional hparams hnone).trans htext) hreads hne
  · rw [interpolatedBody?_eq_some_iff.mpr hbody] at hinter
    cases hinter

/-- A minus before two digits that are not from ASCII. -/
def thirtyFour : Text := ofString "-٣٤"

/-- A statement that sets a variable to them. -/
def setting : Statement where
  command := ofString "Set_IntVar"
  params := [Param.ofToken (enquote (ofString "n")), Param.ofToken thirtyFour]

theorem literals_agree_thirtyFour : Trimmed thirtyFour ∧ ¬ Overlong thirtyFour ∧
    Lint.matchesType thirtyFour .int = true ∧ Lint.matchesType thirtyFour .bool = false ∧
    Value.ofToken thirtyFour = .ok (.int (-34)) ∧
    ∀ (p : Program) (x : Session Unit Unit),
      Assigns Host.eager p x setting (ofString "n") (.int (-34)) := by
  have hblank : thirtyFour.any isBlank = false := by decide
  have ht : Trimmed thirtyFour := trimmed_of_forall fun c hc =>
    eq_false_of_ne_true (List.any_eq_false.mp hblank c hc)
  have hlong : ¬ Overlong thirtyFour := not_overlong_of_length (by decide)
  have hint : Lint.matchesType thirtyFour .int = true := by decide
  have hvalue : Value.ofToken thirtyFour = .ok (.ofScalar (.int (-34))) := by decide
  obtain ⟨-, -, -, -, -, hstore⟩ := literals_agree ht hlong
  obtain ⟨value, -, -, hread, hassigns⟩ := hstore .int hint (by decide) (by decide)
  obtain rfl := Value.ofScalar_injective (Except.ok.inj (hread.symm.trans hvalue))
  exact ⟨ht, hlong, hint, by decide, hvalue, fun p x =>
    hassigns Host.eager p x setting (ofString "n") (by decide) (by decide) rfl⟩

end Dialogue
