import Dialogue.Proofs.Lint.Releases

/-!
# What each token of a line contributes

The tokens of a command line go through two loops, one over the required parameters and one over what
follows them, and the second one uses up the trailing parameters as it comes to tokens without a name.
In the end every token has been used once: it is the value of one parameter, or it is one too many, or
its name is not known.

* `Role`, `roles`: what a token is taken for. For a token behind the required ones only the tokens
  without a name before it count (`rank`);
* **`checkParams_eq`**: the problems of the parameters are those of the roles, token by token, and one
  for each parameter that is missing;
* `tally`: how many problems have a code. `tally_checkParams` counts them for the parameters of a line;
* `checkValue_severity`: a value has one error at most, and only placeholders are warned of;
* `Compatibility`: what is found of release and game, one warning of each at most;
* `Account`, **`tokens_accounted`**: the account of a line. `exists_unaccounted` is a line that has none.
-/

namespace Dialogue.Lint

open Text Script

variable {catalog : Catalog} {marks : List Text} {facts : Facts} {raw : Text} {c : Contract}
  {ts xs : List Text}

/-! ## Roles -/

/-- What a token is taken for. -/
inductive Role where
  /-- The value of a parameter. -/
  | value (p : ParamSpec) (place : Place) (written : Text)
  /-- A token without a name behind the last trailing parameter. -/
  | surplus
  /-- A token with a name that no optional parameter has. -/
  | unknown (name : Text)

namespace Role

/-- The problems of a token in a role. -/
def problems (facts : Facts) (c : Contract) : Role → List Problem
  | value p place written => checkValue facts p place written
  | surplus => [.unnamedOption]
  | unknown name => [.unknownOption name c.name]

/-- The role of a token in the place of a required parameter, whether it has a name or not. -/
def ofRequired (p : ParamSpec) (t : Text) : Role := .value p (.positional p.name) t

/-- The role of a token behind the required ones, with so many tokens without a name before it. -/
def ofExtra (c : Contract) (rank : Nat) (t : Text) : Role :=
  match splitNamed t with
  | none =>
    match c.trailing[rank]? with
    | some p => .value p (.positional p.name) t
    | none => .surplus
  | some (name, written) =>
    match c.optionalParam? name with
    | some p => .value p (.byName name) written
    | none => .unknown name

end Role

/-- The token has no name. -/
def isUnnamed (t : Text) : Bool := (splitNamed t).isNone

/-- The token has a name that no optional parameter has. -/
def isUnknown (c : Contract) (t : Text) : Bool :=
  (splitNamed t).any fun e => (c.optionalParam? e.1).isNone

theorem isUnnamed_of_eq_none {t : Text} (h : splitNamed t = none) : isUnnamed t = true := by
  rw [isUnnamed, h]
  rfl

theorem isUnnamed_of_eq_some {t : Text} {e : Text × Text} (h : splitNamed t = some e) :
    ¬ isUnnamed t = true := by
  rw [isUnnamed, h]
  exact Bool.false_ne_true

theorem isUnknown_of_eq_none {t : Text} (h : splitNamed t = none) : ¬ isUnknown c t = true := by
  rw [isUnknown, h]
  exact Bool.false_ne_true

theorem isUnknown_of_eq_some {t : Text} {e : Text × Text} (h : splitNamed t = some e) :
    isUnknown c t = true ↔ c.optionalParam? e.1 = none := by
  rw [isUnknown, h, Option.any_some, Option.isNone_iff_eq_none]

/-- How many of the tokens before number `i` have no name. -/
def rank (xs : List Text) (i : Nat) : Nat := (xs.take i).countP isUnnamed

/-- The tokens behind the required ones. -/
def extras (c : Contract) (ts : List Text) : List Text := ts.drop c.required.length

/-- The roles of the tokens of a line, in order. -/
def roles (c : Contract) (ts : List Text) : List Role :=
  List.zipWith Role.ofRequired c.required ts ++
    (extras c ts).mapIdx fun i t => Role.ofExtra c (rank (extras c ts) i) t

/-- Every token has one role. -/
theorem length_roles (c : Contract) (ts : List Text) : (roles c ts).length = ts.length := by
  rw [roles, List.length_append, List.length_zipWith, List.length_mapIdx, extras, List.length_drop]
  omega

theorem rank_cons (t : Text) (xs : List Text) (i : Nat) :
    rank (t :: xs) (i + 1) = (if isUnnamed t then 1 else 0) + rank xs i := by
  rw [rank, List.take_succ_cons, List.countP_cons, Nat.add_comm]
  rfl

/-- **The required parameters are checked against the tokens in their places**, and those that have no
token are missing. -/
theorem checkRequired_eq (facts : Facts) (c : Contract) (ps : List ParamSpec) (ts : List Text) :
    checkRequired facts c.name ps ts =
      (List.zipWith Role.ofRequired ps ts).flatMap (·.problems facts c) ++
        (ps.drop ts.length).map fun p => .missingParam p.name c.name := by
  induction ps generalizing ts with
  | nil => cases ts <;> rfl
  | cons p ps ih =>
    cases ts with
    | nil =>
      rw [checkRequired, ih []]
      simp
    | cons t ts =>
      rw [checkRequired, ih ts, List.zipWith_cons_cons, List.flatMap_cons, List.append_assoc]
      rfl

/-- **Behind the required ones a token without a name is checked against the trailing parameter of its
rank**, with `k` of these used up before, and a token with a name against the parameter of its name. -/
theorem checkExtras_eq (facts : Facts) (c : Contract) (xs : List Text) (k : Nat) :
    checkExtras facts c (c.trailing.drop k) xs =
      (xs.mapIdx fun i t => Role.ofExtra c (k + rank xs i) t).flatMap (·.problems facts c) := by
  induction xs generalizing k with
  | nil => rw [checkExtras]; rfl
  | cons t xs ih =>
    have hlater : ∀ k', k' = k + (if isUnnamed t then 1 else 0) →
        checkExtras facts c (c.trailing.drop k') xs = (xs.mapIdx fun i t' =>
          Role.ofExtra c (k + rank (t :: xs) (i + 1)) t').flatMap (·.problems facts c) := by
      rintro k' rfl
      simp only [rank_cons, ← Nat.add_assoc]
      exact ih _
    rw [List.mapIdx_cons, List.flatMap_cons]
    change _ = (Role.ofExtra c k t).problems facts c ++ _
    cases hnamed : splitNamed t with
    | none =>
      rw [← hlater (k + 1) (by simp [isUnnamed_of_eq_none hnamed])]
      cases htrailing : c.trailing[k]? with
      | none =>
        have hle : c.trailing.length ≤ k := List.getElem?_eq_none_iff.mp htrailing
        rw [List.drop_eq_nil_of_le hle, List.drop_eq_nil_of_le (Nat.le_succ_of_le hle)]
        simp only [checkExtras, Role.ofExtra, hnamed, htrailing]
        rfl
      | some p =>
        obtain ⟨hlt, rfl⟩ := List.getElem?_eq_some_iff.mp htrailing
        rw [List.drop_eq_getElem_cons hlt]
        simp only [checkExtras, Role.ofExtra, hnamed, htrailing]
        rfl
    | some e =>
      rw [← hlater k (by simp [isUnnamed_of_eq_some hnamed])]
      cases hoption : c.optionalParam? e.1 with
      | none =>
        simp only [checkExtras, Role.ofExtra, hnamed, hoption]
        rfl
      | some p =>
        simp only [checkExtras, Role.ofExtra, hnamed, hoption]
        rfl

/-- **The problems of the parameters are those of the roles of the tokens, token by token**, and one for
each required parameter that is missing. -/
theorem checkParams_eq (facts : Facts) (c : Contract) (ts : List Text) :
    checkParams facts c ts = (roles c ts).flatMap (·.problems facts c) ++
      (c.required.drop ts.length).map fun p => .missingParam p.name c.name := by
  have hextras := checkExtras_eq facts c (extras c ts) 0
  simp only [List.drop_zero, Nat.zero_add] at hextras
  rw [checkParams, checkRequired_eq, ← extras, hextras, roles, List.flatMap_append,
    List.append_assoc, List.append_assoc]
  congr 1
  -- where a parameter is missing no token is left
  rcases Nat.le_total c.required.length ts.length with hle | hle
  · rw [List.drop_eq_nil_of_le hle, List.map_nil, List.nil_append, List.append_nil]
  · rw [show extras c ts = [] from List.drop_eq_nil_of_le hle, List.mapIdx_nil, List.flatMap_nil,
      List.nil_append, List.append_nil]

/-! ## Codes -/

theorem ofString_eq_iff {a b : String} : ofString a = ofString b ↔ b = a :=
  String.toList_inj.trans eq_comm

/-- How many of the problems have the code. -/
def tally (code : String) (problems : List Problem) : Nat :=
  problems.countP fun x => x.code = ofString code

theorem tally_append (code : String) (xs ys : List Problem) :
    tally code (xs ++ ys) = tally code xs + tally code ys :=
  List.countP_append

theorem tally_cons (code : String) (x : Problem) (xs : List Problem) :
    tally code (x :: xs) = tally code xs + if x.code = ofString code then 1 else 0 := by
  simp only [tally, List.countP_cons, decide_eq_true_eq]

/-- The codes of the problems of a value. -/
def valueCodes : List String :=
  ["PARAM_INVALID_TYPE", "VARIABLE_UNKNOWN", "VARIABLE_TYPE_MISMATCH",
    "VARIABLE_UNKNOWN_PLACEHOLDER"]

theorem tally_checkValue {code : String} (hcode : ∀ code' ∈ valueCodes, ofString code' ≠ ofString code)
    (facts : Facts) (p : ParamSpec) (place : Place) (written : Text) :
    tally code (checkValue facts p place written) = 0 := by
  refine List.countP_eq_zero.mpr fun x hx => ?_
  obtain ⟨code', hmem, hx⟩ : ∃ code' ∈ valueCodes, x.code = ofString code' := by
    rcases checkValue_cases facts p place written with ⟨y, hy, hcases⟩ | ⟨names, hnames⟩
    · obtain rfl := List.mem_singleton.mp (hy ▸ hx)
      rcases hcases with rfl | ⟨name, rfl⟩ | ⟨name, type, line, rfl⟩
      · exact ⟨_, List.mem_cons_self, rfl⟩
      · exact ⟨"VARIABLE_UNKNOWN", by decide, rfl⟩
      · exact ⟨"VARIABLE_TYPE_MISMATCH", by decide, rfl⟩
    · rw [hnames] at hx
      obtain ⟨name, -, rfl⟩ := List.mem_map.mp hx
      exact ⟨"VARIABLE_UNKNOWN_PLACEHOLDER", by decide, rfl⟩
  rw [hx, decide_eq_true_eq]
  exact hcode code' hmem

/-- A problem is found for each required parameter that is missing. -/
theorem tally_checkRequired {code : String}
    (hcode : ∀ code' ∈ valueCodes, ofString code' ≠ ofString code) (facts : Facts) (command : Text)
    (ps : List ParamSpec) (ts : List Text) : tally code (checkRequired facts command ps ts) =
      if code = "PARAM_MISSING_REQUIRED" then ps.length - ts.length else 0 := by
  have hmissing : ∀ name command', (Problem.missingParam name command').code = ofString code ↔
      code = "PARAM_MISSING_REQUIRED" := fun _ _ => ofString_eq_iff
  fun_induction checkRequired facts command ps ts with
  | case1 ts => simp [tally]
  | case2 p ps ih =>
    rw [tally_cons, ih, List.length_nil, Nat.sub_zero, List.length_cons]
    simp only [hmissing]
    split_ifs
    · rfl
    · rfl
  | case3 p ps t ts ih =>
    rw [tally_append, tally_checkValue hcode, ih, List.length_cons, List.length_cons,
      Nat.add_sub_add_right, Nat.zero_add]

/-- A problem is found for each token without a name that no trailing parameter is left for, and for each
name that is not known. -/
theorem tally_checkExtras {code : String}
    (hcode : ∀ code' ∈ valueCodes, ofString code' ≠ ofString code) (facts : Facts) (c : Contract)
    (trailing : List ParamSpec) (xs : List Text) : tally code (checkExtras facts c trailing xs) =
      if code = "PARAM_EXPECTED_NAMED" then xs.countP isUnnamed - trailing.length
      else if code = "PARAM_UNKNOWN_OPTIONAL" then xs.countP (isUnknown c) else 0 := by
  have hunnamed : Problem.unnamedOption.code = ofString code ↔ code = "PARAM_EXPECTED_NAMED" :=
    ofString_eq_iff
  have hunknown : ∀ name command', (Problem.unknownOption name command').code = ofString code ↔
      code = "PARAM_UNKNOWN_OPTIONAL" := fun _ _ => ofString_eq_iff
  fun_induction checkExtras facts c trailing xs with
  | case1 trailing => simp [tally]
  | case2 t ts hnamed p ps ih =>
    rw [tally_append, tally_checkValue hcode, ih,
      List.countP_cons_of_pos (isUnnamed_of_eq_none hnamed),
      List.countP_cons_of_neg (isUnknown_of_eq_none hnamed), List.length_cons,
      Nat.add_sub_add_right, Nat.zero_add]
  | case3 t ts hnamed ih =>
    rw [tally_cons, ih, List.countP_cons_of_pos (isUnnamed_of_eq_none hnamed),
      List.countP_cons_of_neg (isUnknown_of_eq_none hnamed)]
    simp only [hunnamed]
    split_ifs
    · rfl
    · rfl
    · rfl
  | case4 trailing t ts name written hnamed hoption ih =>
    rw [tally_cons, ih, List.countP_cons_of_neg (isUnnamed_of_eq_some hnamed),
      List.countP_cons_of_pos ((isUnknown_of_eq_some hnamed).mpr hoption)]
    simp only [hunknown]
    split_ifs with hexpected hother
    · exact absurd (hexpected.symm.trans hother) (by decide)
    · rfl
    · rfl
    · rfl
  | case5 trailing t ts name written hnamed p hoption ih =>
    have hknown : ¬ isUnknown c t = true := by simp [isUnknown_of_eq_some hnamed, hoption]
    rw [tally_append, tally_checkValue hcode, ih,
      List.countP_cons_of_neg (isUnnamed_of_eq_some hnamed), List.countP_cons_of_neg hknown,
      Nat.zero_add]

/-! ## Release and game -/

/-- What is found of the release and the game of a command: warnings, one of each at most. -/
structure Compatibility (found : List Problem) : Prop where
  release : tally "COMPAT_VERSION" found ≤ 1
  game : tally "COMPAT_GAME" found ≤ 1
  warns : ∀ x ∈ found, (x.code = ofString "COMPAT_VERSION" ∨ x.code = ofString "COMPAT_GAME") ∧
    x.severity = .warning

/-- **Release and game are warned of once each at most.** -/
theorem compatibility_of_checks {version : List Problem} (h : checkVersion facts c = .ok version) :
    Compatibility (version ++ checkGame catalog facts c) := by
  rcases checkVersion_cases h with rfl | ⟨target, rfl⟩
  · rcases checkGame_cases catalog facts c with hgame | ⟨game, hgame⟩
    · rw [hgame]
      exact ⟨Nat.zero_le 1, Nat.zero_le 1, nofun⟩
    · rw [hgame]
      refine ⟨Nat.zero_le 1, Nat.le_refl 1, fun x hx => ?_⟩
      obtain rfl := List.mem_singleton.mp hx
      exact ⟨.inr rfl, rfl⟩
  · rcases checkGame_cases catalog facts c with hgame | ⟨game, hgame⟩
    · rw [hgame]
      refine ⟨Nat.le_refl 1, Nat.zero_le 1, fun x hx => ?_⟩
      obtain rfl := List.mem_singleton.mp hx
      exact ⟨.inl rfl, rfl⟩
    · rw [hgame]
      refine ⟨Nat.le_refl 1, Nat.le_refl 1, fun x hx => ?_⟩
      rcases List.mem_pair.mp hx with rfl | rfl
      · exact ⟨.inl rfl, rfl⟩
      · exact ⟨.inr rfl, rfl⟩

/-! ## Lines -/

/-- The account of the problems of a line with the tokens `ts`. -/
structure Account (facts : Facts) (c : Contract) (ts : List Text) (problems : List Problem) :
    Prop where
  /-- Release and game come first, then the tokens in order, each in its role, then what is missing. -/
  whole : ∃ found, Compatibility found ∧ problems = found ++
    ((roles c ts).flatMap (·.problems facts c) ++
      (c.required.drop ts.length).map fun p => .missingParam p.name c.name)
  missing : tally "PARAM_MISSING_REQUIRED" problems = c.required.length - ts.length
  surplus : tally "PARAM_EXPECTED_NAMED" problems =
    (extras c ts).countP isUnnamed - c.trailing.length
  unknown : tally "PARAM_UNKNOWN_OPTIONAL" problems = (extras c ts).countP (isUnknown c)
  /-- A value has one error at most, and only placeholders are warned of. -/
  values : ∀ p place written, Role.value p place written ∈ roles c ts →
    (checkValue facts p place written).countP (·.severity = .error) ≤ 1 ∧
    ∀ x ∈ checkValue facts p place written, x.severity ≠ .error →
      ∃ name, x = .unknownPlaceholder name
  release : tally "COMPAT_VERSION" problems ≤ 1
  game : tally "COMPAT_GAME" problems ≤ 1

/-- A value has one error at most, and is warned of its placeholders only. -/
theorem checkValue_severity (facts : Facts) (p : ParamSpec) (place : Place) (written : Text) :
    (checkValue facts p place written).countP (·.severity = .error) ≤ 1 ∧
    ∀ x ∈ checkValue facts p place written, x.severity ≠ .error →
      ∃ name, x = .unknownPlaceholder name := by
  rcases checkValue_cases facts p place written with ⟨x, hx, hcases⟩ | ⟨names, hnames⟩
  · have herror : x.severity = .error := by
      rcases hcases with rfl | ⟨name, rfl⟩ | ⟨name, type, line, rfl⟩
      · rfl
      · rfl
      · rfl
    rw [hx]
    refine ⟨List.countP_le_length, fun y hy hne => ?_⟩
    obtain rfl := List.mem_singleton.mp hy
    exact absurd herror hne
  · rw [hnames]
    constructor
    · rw [List.countP_eq_zero.mpr]
      · exact Nat.zero_le 1
      · intro x hx
        obtain ⟨name, -, rfl⟩ := List.mem_map.mp hx
        simp [Problem.severity]
    · intro x hx _
      obtain ⟨name, -, rfl⟩ := List.mem_map.mp hx
      exact ⟨name, rfl⟩

/-- No problem of the parameters has another code than these. -/
theorem tally_checkParams {code : String}
    (hcode : ∀ code' ∈ valueCodes, ofString code' ≠ ofString code) (facts : Facts) (c : Contract)
    (ts : List Text) : tally code (checkParams facts c ts) =
      if code = "PARAM_MISSING_REQUIRED" then c.required.length - ts.length
      else if code = "PARAM_EXPECTED_NAMED" then
        (extras c ts).countP isUnnamed - c.trailing.length
      else if code = "PARAM_UNKNOWN_OPTIONAL" then (extras c ts).countP (isUnknown c) else 0 := by
  rw [checkParams, tally_append, tally_checkRequired hcode, tally_checkExtras hcode, ← extras]
  split_ifs with hmissing hexpected hunknown
  · exact absurd (hmissing.symm.trans hexpected) (by decide)
  · exact absurd (hmissing.symm.trans hunknown) (by decide)
  · exact Nat.add_zero _
  · exact Nat.zero_add _
  · exact Nat.zero_add _
  · rfl

/-- Whatever is found of release and game has none of the codes of parameters. -/
theorem Compatibility.tally_eq_zero {found : List Problem} (hfound : Compatibility found)
    {code : String} (hversion : ofString "COMPAT_VERSION" ≠ ofString code)
    (hgame : ofString "COMPAT_GAME" ≠ ofString code) : tally code found = 0 := by
  refine List.countP_eq_zero.mpr fun x hx => ?_
  rw [decide_eq_true_eq]
  rcases (hfound.warns x hx).1 with hcode | hcode
  · rwa [hcode]
  · rwa [hcode]

/-- **The problems of a line with a known command have their account.** -/
theorem account_of_checks {version : List Problem} (h : checkVersion facts c = .ok version)
    (catalog : Catalog) (ts : List Text) :
    Account facts c ts (version ++ checkGame catalog facts c ++ checkParams facts c ts) := by
  have hfound : Compatibility (version ++ checkGame catalog facts c) := compatibility_of_checks h
  have htally : ∀ code, tally code (version ++ checkGame catalog facts c ++ checkParams facts c ts) =
      tally code (version ++ checkGame catalog facts c) + tally code (checkParams facts c ts) :=
    fun code => tally_append code _ _
  refine ⟨⟨_, hfound, by rw [checkParams_eq]⟩, ?_, ?_, ?_, fun p place written _ =>
    checkValue_severity facts p place written, ?_, ?_⟩
  · rw [htally, hfound.tally_eq_zero (by decide) (by decide), tally_checkParams (by decide)]
    exact Nat.zero_add _
  · rw [htally, hfound.tally_eq_zero (by decide) (by decide), tally_checkParams (by decide)]
    exact Nat.zero_add _
  · rw [htally, hfound.tally_eq_zero (by decide) (by decide), tally_checkParams (by decide)]
    exact Nat.zero_add _
  · rw [htally, tally_checkParams (by decide)]
    exact hfound.release
  · rw [htally, tally_checkParams (by decide)]
    exact hfound.game

/-- **Every token of a line with a known command is accounted for.** The line is checked unless the
version tag of its script or of its command is overlong. Then one problem is found for each required
parameter that has no token, one for each token without a name behind the last trailing parameter, and
one for each name that no optional parameter has; every other token is the value of one parameter and
has one error at most; and release and game are warned of once each at most. -/
theorem tokens_accounted {command content : Text}
    (hline : commandLine? marks raw = some (command, content))
    (hfind : catalog.find? command = some c) (facts : Facts) :
    ((∃ problems, checkLine catalog marks facts raw = .ok problems) ↔
      ∀ tag, facts.version = some tag ∨ tag = c.since → ¬ OverlongTag tag) ∧
    (roles c (splitParams content)).length = (splitParams content).length ∧
    ∀ problems, checkLine catalog marks facts raw = .ok problems →
      Account facts c (splitParams content) problems := by
  refine ⟨?_, length_roles c _, fun problems hcheck => ?_⟩
  · rw [exists_ok_iff_of_refusal (refusal?_checkLine catalog marks facts raw),
      comparedOn_of_known hline hfind]
    simp
  · rw [checkLine_of_known hline hfind] at hcheck
    obtain ⟨version, hversion, rfl⟩ := map_eq_ok_iff.mp hcheck
    exact account_of_checks hversion catalog _

/-- A menu with two options too many, one of them for a marker of a slot that there is not. -/
def crowded : Text := ofString "Show_Options [\"a\", lm1=\"x\", \"b\", lm9=\"y\", \"c\", \"d\"]"

theorem tokens_accounted_crowded : ∃ c content problems,
    commandLine? defaultMarks crowded = some (ofString "Show_Options", content) ∧
    Catalog.standard.find? (ofString "Show_Options") = some c ∧
    (splitParams content).length = 6 ∧ c.required.length = 1 ∧ c.trailing.length = 2 ∧
    checkLine .standard defaultMarks {} crowded = .ok problems ∧
    Account {} c (splitParams content) problems ∧
    problems = [.unknownOption (ofString "lm9") (ofString "Show_Options"), .unnamedOption] := by
  have hline : commandLine? defaultMarks crowded = some (ofString "Show_Options",
      ofString "\"a\", lm1=\"x\", \"b\", lm9=\"y\", \"c\", \"d\"") := by decide
  have hcheck : checkLine .standard defaultMarks {} crowded =
      .ok [.unknownOption (ofString "lm9") (ofString "Show_Options"), .unnamedOption] := by decide
  obtain ⟨c, hfind, hrequired, htrailing⟩ : ∃ c, Catalog.standard.find? (ofString "Show_Options") =
      some c ∧ c.required.length = 1 ∧ c.trailing.length = 2 := ⟨_, rfl, rfl, rfl⟩
  obtain ⟨-, -, haccount⟩ := tokens_accounted hline hfind {}
  exact ⟨c, _, _, hline, hfind, by decide, hrequired, htrailing, hcheck, haccount _ hcheck, rfl⟩

/-- A script that says nothing and targets a release with an overlong tag. -/
def speechless : Text := joinWith ['\n'] [ofString "Act_Speak []", heading nines]

/-- **A parameter that is missing is not reported where the linter refuses the script.** -/
theorem exists_unaccounted : ∃ c,
    commandLine? defaultMarks (ofString "Act_Speak []") = some (ofString "Act_Speak", []) ∧
    Catalog.standard.find? (ofString "Act_Speak") = some c ∧
    (splitParams []).length < c.required.length ∧
    checkLine .standard defaultMarks (collectFacts defaultMarks speechless)
      (ofString "Act_Speak []") = .error { digits := maxDigits + 1 } ∧
    validate .standard defaultMarks speechless = .error { digits := maxDigits + 1 } := by
  have hlines : splitLines speechless = [ofString "Act_Speak []", heading nines] := by
    rw [speechless, joinWith, joinWith, List.append_assoc, List.singleton_append,
      splitLines_append_feed (by decide) (by decide), (heading_line nines_digits).1]
  have htarget : target? defaultMarks speechless = some nines :=
    target?_of_heading nines_digits
      (show splitLines speechless = [ofString "Act_Speak []"] ++ [heading nines] from hlines)
  have hline : commandLine? defaultMarks (ofString "Act_Speak []") =
      some (ofString "Act_Speak", []) := by decide
  obtain ⟨c, hfind, hrequired⟩ : ∃ c, Catalog.standard.find? (ofString "Act_Speak") = some c ∧
      (splitParams []).length < c.required.length := ⟨_, rfl, by decide⟩
  have hrefused : ∀ tags, firstRefusal (nines :: tags) = some { digits := maxDigits + 1 } := by
    intro tags
    rw [firstRefusal_of_overlong overlongTag_nines, versionDigits_nines, nines,
      List.length_replicate]
  refine ⟨c, hline, hfind, hrequired, ?_, ?_⟩
  · rw [← refusal?_eq_some_iff, refusal?_checkLine, collectFacts_version, htarget,
      comparedOn_of_known hline hfind, Option.toList_some, List.singleton_append, hrefused]
  · rw [← refusal?_eq_some_iff, refusal?_validate, compared, hlines, htarget, List.flatMap_cons,
      comparedOn_of_known hline hfind, Option.toList_some, List.singleton_append,
      List.cons_append, hrefused]

end Dialogue.Lint
