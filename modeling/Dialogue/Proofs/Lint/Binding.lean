import Dialogue.Catalog.Standard
import Dialogue.Proofs.Lint.ByLine
import Dialogue.Proofs.Script.Forms

/-!
# Whether values are read for the parameters that they were checked for

The linter checks the tokens of a line against the required parameters by their position, and a
statement takes its positional parameters for them. A token with an equals sign that counts is a named
parameter of the statement, and none of its positional ones. Only a token that opens and closes with
double quotes can have one and be accepted for a required parameter.

* `Passes`: a line on which no error is reported (`passes_of_validate`);
* `splitNamed_of_passes`: what is accepted for an integer or a truth value is positional;
* `Bound`: the required parameters are read as they were checked (`bound_iff`);
* **`bound_iff_of_validate`**: on a line without an error that is so iff no token for a required
  string has an equals sign that counts;
* `exists_misread`: an accepted line whose only token is read as a named parameter.
-/

namespace Dialogue.Lint

open Text Script

variable {catalog : Catalog} {marks : List Text} {facts : Facts} {source t : Text}
  {ts : List Text} {p : ParamSpec} {ps : List ParamSpec} {place : Place} {k : Nat}

/-! ## What passes -/

/-- None of the problems is an error. -/
def Passes (problems : List Problem) : Prop := ∀ x ∈ problems, x.severity ≠ .error

theorem Passes.of_append_left {xs ys : List Problem} (h : Passes (xs ++ ys)) : Passes xs :=
  fun x hx => h x (List.mem_append_left ys hx)

theorem Passes.of_append_right {xs ys : List Problem} (h : Passes (xs ++ ys)) : Passes ys :=
  fun y hy => h y (List.mem_append_right xs hy)

/-- The problems of a line are among the diagnostics of its script. -/
theorem diagnostics_of_checkLines {first i : Nat} {lines : List Text} {raw : Text}
    {ds : List Diagnostic} (h : checkLines catalog marks facts first lines = .ok ds)
    (hraw : lines[i]? = some raw) : ∃ problems, checkLine catalog marks facts raw = .ok problems ∧
      ∀ x ∈ problems, x.diagnostic (lineRange (first + i) raw) ∈ ds := by
  obtain ⟨hall, rfl⟩ := checkLines_eq_gather h
  refine ⟨_, hall raw (List.mem_of_getElem? hraw), fun x hx => ?_⟩
  exact mem_gather_iff.mpr ⟨i, raw, hraw, List.mem_map_of_mem hx⟩

/-- **On a line without an error all problems pass.** -/
theorem passes_of_validate {ds : List Diagnostic} {i : Nat} {raw : Text}
    (hlint : validate catalog marks source = .ok ds) (hraw : (splitLines source)[i]? = some raw)
    (herrors : ∀ d ∈ ds, d.range.line = i → d.severity ≠ .error) :
    ∃ problems, checkLine catalog marks (collectFacts marks source) raw = .ok problems ∧
      Passes problems := by
  obtain ⟨found, hfound, hds⟩ := bind_eq_ok_iff.mp hlint
  obtain rfl := pure_eq_ok_iff.mp hds
  obtain ⟨problems, hline, hmem⟩ := diagnostics_of_checkLines hfound hraw
  refine ⟨problems, hline, fun x hx => herrors (x.diagnostic (lineRange (0 + i) raw)) ?_ ?_⟩
  · rw [sortDiagnostics, List.mem_mergeSort]
    exact List.mem_append_left _ (hmem x hx)
  · simp [Problem.diagnostic, lineRange]

/-- A command line on which all problems pass has a contract, and its parameters pass. -/
theorem exists_contract_of_passes {raw command content : Text} {problems : List Problem}
    (hline : commandLine? marks raw = some (command, content))
    (hcheck : checkLine catalog marks facts raw = .ok problems) (hpasses : Passes problems) :
    ∃ c, catalog.find? command = some c ∧ Passes (checkParams facts c (splitParams content)) := by
  cases hfind : catalog.find? command with
  | none =>
    rw [checkLine_of_unknown hline hfind] at hcheck
    obtain rfl := Except.ok.inj hcheck
    exact absurd rfl (hpasses _ List.mem_cons_self)
  | some c =>
    rw [checkLine_of_known hline hfind] at hcheck
    obtain ⟨version, -, rfl⟩ := map_eq_ok_iff.mp hcheck
    exact ⟨c, rfl, hpasses.of_append_right⟩

/-! ## Required parameters -/

/-- Enough tokens are there. -/
theorem length_le_of_passes {command : Text} (h : Passes (checkRequired facts command ps ts)) :
    ps.length ≤ ts.length := by
  induction ps generalizing ts with
  | nil => exact Nat.zero_le _
  | cons p ps ih =>
    cases ts with
    | nil => exact absurd rfl (h _ List.mem_cons_self)
    | cons t ts => exact Nat.succ_le_succ (ih h.of_append_right)

/-- Every required parameter is checked against the token in its place. -/
theorem passes_checkValue {command : Text} (h : Passes (checkRequired facts command ps ts))
    (hp : ps[k]? = some p) (ht : ts[k]? = some t) :
    Passes (checkValue facts p (.positional p.name) t) := by
  induction ps generalizing ts k with
  | nil => cases hp
  | cons q ps ih =>
    cases ts with
    | nil => cases ht
    | cons u ts =>
      cases k with
      | zero =>
        obtain rfl := Option.some.inj hp
        obtain rfl := Option.some.inj ht
        exact h.of_append_left
      | succ k => exact ih h.of_append_right hp ht

/-! ## Tokens without an equals sign -/

/-- **What is accepted for anything but a string is positional.** -/
theorem splitNamed_of_passes (h : Passes (checkValue facts p place t)) (hp : p.type ≠ .string) :
    splitNamed t = none := by
  refine splitNamed_of_not_mem ?_
  unfold checkValue at h
  split at h
  · rename_i name href
    exact not_mem_of_reference href (by decide) (by decide)
  · split at h
    · rename_i hmatches
      cases htype : p.type with
      | string => exact absurd htype hp
      | int =>
        have hint : isInteger t = true := by simpa [htype, matchesType] using hmatches
        exact not_mem_of_isInteger hint (by decide) (by decide)
      | bool =>
        have hbool : isBoolWord t = true := by simpa [htype, matchesType] using hmatches
        exact not_mem_of_isBoolWord hbool rfl
      | other name => simp [htype, matchesType] at hmatches
    · exact absurd rfl (h _ List.mem_cons_self)

/-! ## How values are read -/

/-- The first `r` positional parameters of a statement are those of the first `r` tokens. -/
def Bound (r : Nat) (tokens : List Text) (s : Statement) : Prop :=
  r ≤ s.positional.length ∧ ∀ k < r, s.positional[k]? = tokens[k]?.map Param.ofToken

theorem isPositional_ofToken (t : Text) :
    (Param.ofToken t).isPositional = true ↔ splitNamed t = none := by
  unfold Param.ofToken
  split
  · rename_i h
    simp [Param.isPositional, h]
  · rename_i h
    simp [Param.isPositional, h]

/-- **The first tokens are read as they were checked iff all of them are positional.** -/
theorem bound_iff {r : Nat} {s : Statement} (hs : s.params = ts.map Param.ofToken)
    (hr : r ≤ ts.length) : Bound r ts s ↔ ∀ k < r, ∀ t, ts[k]? = some t → splitNamed t = none := by
  constructor
  · rintro ⟨-, hbound⟩ k hk t ht
    have hmem := List.mem_of_getElem? ((hbound k hk).trans (by rw [ht]; rfl))
    exact (isPositional_ofToken t).mp (List.mem_filter.mp hmem).2
  · intro hnone
    have hall : ∀ p ∈ (ts.take r).map Param.ofToken, p.isPositional = true := by
      intro p hp
      obtain ⟨t, ht, rfl⟩ := List.mem_map.mp hp
      obtain ⟨k, hk, rfl⟩ := List.mem_take_iff_getElem.mp ht
      obtain ⟨hkr, hkt⟩ := Nat.lt_min.mp hk
      exact (isPositional_ofToken _).mpr (hnone k hkr _ (List.getElem?_eq_getElem hkt))
    -- taking the named parameters out leaves the first tokens where they are
    have hpositional : s.positional = (ts.take r).map Param.ofToken ++
        ((ts.drop r).map Param.ofToken).filter (·.isPositional) := by
      conv_lhs => rw [Statement.positional, hs, ← List.take_append_drop r ts, List.map_append]
      rw [List.filter_append, List.filter_eq_self.mpr hall]
    have hlength : ((ts.take r).map Param.ofToken).length = r := by
      rw [List.length_map, List.length_take, Nat.min_eq_left hr]
    refine ⟨?_, fun k hk => ?_⟩
    · rw [hpositional, List.length_append, hlength]
      exact Nat.le_add_right _ _
    · rw [hpositional, List.getElem?_append_left (by rwa [hlength]), List.getElem?_map,
        List.getElem?_take_of_lt hk]

/-- **On a line without an error the required values are read for the parameters that they were
checked for iff no token for a required string has an equals sign that counts.** -/
theorem bound_iff_of_validate {ds : List Diagnostic} {s : Statement}
    (hlint : validate catalog marks source = .ok ds) (hs : s ∈ parse marks source)
    (herrors : ∀ d ∈ ds, d.range.line = s.line → d.severity ≠ .error) :
    ∃ c content, commandLine? marks s.raw = some (s.command, content) ∧
      catalog.find? s.command = some c ∧
      c.required.length ≤ (splitParams content).length ∧
      (∀ (k : Nat) (p : ParamSpec) (t : Text), c.required[k]? = some p →
        (splitParams content)[k]? = some t →
        Passes (checkValue (collectFacts marks source) p (.positional p.name) t)) ∧
      (Bound c.required.length (splitParams content) s ↔
        ∀ (k : Nat) (p : ParamSpec) (t : Text), c.required[k]? = some p →
          (splitParams content)[k]? = some t → p.type = .string → splitNamed t = none) := by
  obtain ⟨i, raw, hraw, hline⟩ := mem_parse_iff.mp hs
  obtain ⟨hskip, command, content, hcommand, rfl⟩ := Statement.ofLine_eq_some_iff.mp hline
  have hread : commandLine? marks raw = some (command, content) := by
    rw [commandLine?, hskip, if_neg Bool.false_ne_true, hcommand]
  obtain ⟨problems, hcheck, hpasses⟩ := passes_of_validate hlint hraw herrors
  obtain ⟨c, hfind, hparams⟩ := exists_contract_of_passes hread hcheck hpasses
  have hrequired := hparams.of_append_left
  have hlength := length_le_of_passes hrequired
  refine ⟨c, content, hread, hfind, hlength, fun k p t => passes_checkValue hrequired, ?_⟩
  rw [bound_iff rfl hlength]
  constructor
  · intro hnone k p t hp ht _
    exact hnone k (List.getElem?_eq_some_iff.mp hp).1 t ht
  · intro hnone k hk t ht
    have hp := List.getElem?_eq_getElem hk
    by_cases htype : c.required[k].type = .string
    · exact hnone k _ t hp ht htype
    · exact splitNamed_of_passes (passes_checkValue hrequired hp ht) htype

/-- A line with one token. -/
def speech (token : String) : Text := ofString ("Act_Speak [" ++ token ++ "]")

/-- Between the quotes an equals sign does not count. -/
theorem bound_iff_of_validate_quotedEquals : ∃ s c content,
    s ∈ parse defaultMarks (speech "\"a=b\"") ∧
      commandLine? defaultMarks s.raw = some (s.command, content) ∧
      Catalog.standard.find? s.command = some c ∧ c.required.length = 1 ∧
      Bound c.required.length (splitParams content) s := by
  let token := ofString "\"a=b\""
  let s : Statement := {
    command := ofString "Act_Speak", params := [Param.ofToken token], raw := speech "\"a=b\"" }
  have hs : s ∈ parse defaultMarks (speech "\"a=b\"") := List.mem_singleton.mpr rfl
  have hlint : validate Catalog.standard defaultMarks (speech "\"a=b\"") = .ok [] :=
    validate_eq_nil rfl rfl
  obtain ⟨c, content, hread, hfind, -, -, hiff⟩ := bound_iff_of_validate hlint hs (by simp)
  have hcontent : commandLine? defaultMarks s.raw = some (s.command, token) := rfl
  cases hcontent.symm.trans hread
  have hcontract : (Catalog.standard.find? s.command).map (·.required.length) = some 1 := rfl
  rw [hfind] at hcontract
  refine ⟨s, c, token, hs, hread, hfind, Option.some.inj hcontract, hiff.mpr ?_⟩
  intro k p t _ ht _
  have htokens : splitParams token = [token] := rfl
  obtain rfl := List.mem_singleton.mp (htokens ▸ List.mem_of_getElem? ht)
  rfl

/-- **A value can be accepted and not be read.** The token opens and closes with double quotes, and
so it is accepted for the text to speak; but its equals sign counts, and the statement has no
positional parameter. -/
theorem exists_misread : validate Catalog.standard defaultMarks (speech "\"a\"=\"b\"") = .ok [] ∧
    ∃ s c content, s ∈ parse defaultMarks (speech "\"a\"=\"b\"") ∧
      commandLine? defaultMarks s.raw = some (s.command, content) ∧
      Catalog.standard.find? s.command = some c ∧ c.required.length = 1 ∧ s.positional = [] ∧
      ¬ Bound c.required.length (splitParams content) s :=
  ⟨validate_eq_nil rfl rfl, _, _, _, List.mem_singleton.mpr rfl, rfl, rfl, rfl, rfl,
    fun h => absurd h.1 (by decide)⟩

end Dialogue.Lint
