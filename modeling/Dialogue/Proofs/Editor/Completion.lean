import Dialogue.Editor.Completion
import Dialogue.Proofs.Catalog.Listing
import Dialogue.Proofs.Catalog.Release
import Dialogue.Proofs.Lint.ByLine

/-!
# Accepting a completion

What a completion inserts is a snippet: a command line with numbered placeholders, each with a
default that stands when it is not filled in. An editor that accepts all defaults is left with a
line that the parser reads as the command and in which the linter finds nothing.

* `Snippet.pieces`, `Snippet.accepted`, `Snippet.stops`: a snippet as an editor reads it, the text
  with each placeholder replaced by its default, and the placeholders;
* `Snippet.Fills`: what a part of a snippet gives wherever it stands, put together along the snippet
  by `Fills.append` (`fills_snippet`);
* `splitParams_blanks`, `addLine_of_blanks`, `checkRequired_blanks`: what the readers make of blank
  values;
* `validate_blankLine`: the linter finds nothing in a line of blank values for a known command;
* `Contract.Presentable`: the contracts that can be offered; `Catalog.completions_eq`: what is offered
  (`completion_items`);
* **`completions_clean`**: the offers, and what accepting one of them gives;
* `completions_deviate`: a catalog without contracts, and one that can offer nothing.
-/

namespace Dialogue

open Text Script Script.Mode Lint

/-! ## Snippets -/

namespace Snippet

/-- A piece of a snippet. -/
inductive Piece where
  | char (c : Char)
  /-- A placeholder with its number, as written, and its default. -/
  | stop (number value : Text)
  deriving DecidableEq, Repr

/-- Number and default of the placeholder that the text after a dollar sign opens with: digits and,
behind a colon, all up to the next closing brace. -/
def stop? : Text → Option (Text × Text)
  | '\x7b' :: r =>
    let number := r.takeWhile Char.isDigit
    match r.drop number.length with
    | ':' :: v =>
      let value := v.takeWhile (· ≠ '\x7d')
      if number.isEmpty || value.length = v.length then none else some (number, value)
    | _ => none
  | _ => none

/-- The pieces of the text after its first `skip` characters. -/
def piecesFrom : Nat → Text → List Piece
  | _, [] => []
  | skip + 1, _ :: r => piecesFrom skip r
  | 0, c :: r =>
    if c = '$' then
      match stop? r with
      | some (number, value) =>
        .stop number value :: piecesFrom (number.length + value.length + 3) r
      | none => .char c :: piecesFrom 0 r
    else .char c :: piecesFrom 0 r

/-- The pieces of a snippet. -/
def pieces (t : Text) : List Piece := piecesFrom 0 t

/-- What is left of a piece that is not filled in. -/
def Piece.accepted : Piece → Text
  | .char c => [c]
  | .stop _ value => value

/-- The number and the default of a placeholder. -/
def Piece.stop? : Piece → Option (Text × Text)
  | .char _ => none
  | .stop number value => some (number, value)

/-- The snippet with each placeholder replaced by its default. -/
def accepted (t : Text) : Text := (pieces t).flatMap Piece.accepted

/-- The placeholders of a snippet, in order. -/
def stops (t : Text) : List (Text × Text) := (pieces t).filterMap Piece.stop?

/-! ### Parts of snippets -/

variable {s s' t line line' number value : Text} {ss ss' : List (Text × Text)}

/-- Wherever the text stands in a snippet, it reads as the line with the placeholders. -/
def Fills (s line : Text) (ss : List (Text × Text)) : Prop :=
  ∃ ps, (∀ t, pieces (s ++ t) = ps ++ pieces t) ∧ ps.flatMap Piece.accepted = line ∧
    ps.filterMap Piece.stop? = ss

theorem Fills.append (h : Fills s line ss) (h' : Fills s' line' ss') :
    Fills (s ++ s') (line ++ line') (ss ++ ss') := by
  obtain ⟨ps, hps, rfl, rfl⟩ := h
  obtain ⟨qs, hqs, rfl, rfl⟩ := h'
  refine ⟨ps ++ qs, fun t => ?_, List.flatMap_append, List.filterMap_append⟩
  rw [List.append_assoc, hps, hqs, List.append_assoc]

theorem Fills.read (h : Fills s line ss) : accepted s = line ∧ stops s = ss := by
  obtain ⟨ps, hps, rfl, rfl⟩ := h
  have hall := hps []
  rw [List.append_nil, show pieces [] = [] from rfl, List.append_nil] at hall
  rw [accepted, stops, hall]
  exact ⟨rfl, rfl⟩

/-- A text without a dollar sign stands for itself. -/
theorem fills_plain (h : '$' ∉ s) : Fills s s [] := by
  refine ⟨s.map .char, fun t => ?_, ?_, ?_⟩
  · induction s with
    | nil => rfl
    | cons c r ih =>
      obtain ⟨hc, hr⟩ := List.ne_and_not_mem_of_not_mem_cons h
      rw [pieces, List.cons_append, piecesFrom, if_neg hc.symm, ← pieces, ih hr]
      rfl
  · simp [List.flatMap_map, Piece.accepted]
  · simp [List.filterMap_map, Function.comp_def, Piece.stop?]

theorem piecesFrom_append (s t : Text) : piecesFrom s.length (s ++ t) = pieces t := by
  induction s with
  | nil => rfl
  | cons c r ih => exact ih

theorem stop?_append (hnumber : number ≠ []) (hdigits : ∀ c ∈ number, c.isDigit = true)
    (hvalue : '\x7d' ∉ value) (t : Text) :
    stop? ('\x7b' :: (number ++ ':' :: (value ++ '\x7d' :: t))) = some (number, value) := by
  have htake : (number ++ ':' :: (value ++ '\x7d' :: t)).takeWhile Char.isDigit = number :=
    takeWhile_append_cons hdigits rfl _
  have hplain : ∀ c ∈ value, decide (c ≠ '\x7d') = true := fun c hc =>
    decide_eq_true fun hbrace => hvalue (hbrace ▸ hc)
  have hclosed : (value ++ '\x7d' :: t).takeWhile (· ≠ '\x7d') = value :=
    takeWhile_append_cons hplain rfl t
  have hopen : ¬ (number.isEmpty || value.length = (value ++ '\x7d' :: t).length) = true := by
    simp [hnumber]
  simp only [stop?, htake, List.drop_left, hclosed]
  exact if_neg hopen

/-- A placeholder stands for its default. -/
theorem fills_stop (hnumber : number ≠ []) (hdigits : ∀ c ∈ number, c.isDigit = true)
    (hvalue : '\x7d' ∉ value) :
    Fills ('$' :: '\x7b' :: (number ++ ':' :: (value ++ ['\x7d']))) value [(number, value)] := by
  refine ⟨[.stop number value], fun t => ?_, by simp [Piece.accepted], rfl⟩
  have hlength : ('\x7b' :: (number ++ ':' :: (value ++ ['\x7d']))).length =
      number.length + value.length + 3 := by
    simp
    omega
  have hskip := piecesFrom_append ('\x7b' :: (number ++ ':' :: (value ++ ['\x7d']))) t
  have hstop := stop?_append hnumber hdigits hvalue t
  rw [hlength] at hskip
  simp only [List.cons_append, List.append_assoc, List.nil_append] at hskip ⊢
  rw [pieces, piecesFrom, if_pos rfl, hstop]
  exact congrArg (Piece.stop number value :: ·) hskip

/-- What only begins like a placeholder stays as it is. -/
example : accepted (ofString "a $\x7b12:x y\x7d $b $\x7b:c\x7d") = ofString "a x y $b $\x7b:c\x7d" := by
  decide

/-! ### The snippet of a command -/

/-- Every default is one of three texts. -/
def blankTexts : List Text := [ofString "\"\"", ofString "0", ofString "false"]

theorem blankValue_mem (type : ParamType) : type.blankValue ∈ blankTexts := by
  cases type with
  | string => exact List.mem_cons_self
  | int => exact List.mem_cons_of_mem _ List.mem_cons_self
  | bool | other name =>
    exact List.mem_cons_of_mem _ (List.mem_cons_of_mem _ List.mem_cons_self)

/-- The defaults for parameters. -/
def blanks (params : List ParamSpec) : List Text := params.map (·.type.blankValue)

theorem blanks_mem (params : List ParamSpec) : ∀ w ∈ blanks params, w ∈ blankTexts := by
  intro w hw
  obtain ⟨p, -, rfl⟩ := List.mem_map.mp hw
  exact blankValue_mem p.type

/-- The placeholders for parameters, numbered from `first`. -/
def numbered (first : Nat) (params : List ParamSpec) : List (Text × Text) :=
  (params.zipIdx first).map fun e => (decimal e.2, e.1.type.blankValue)

theorem fills_placeholder (first : Nat) (type : ParamType) :
    Fills (ofString "$\x7b" ++ decimal first ++ ofString ":" ++ type.blankValue ++ ofString "\x7d")
      type.blankValue [(decimal first, type.blankValue)] := by
  have hbrace : ∀ w ∈ blankTexts, '\x7d' ∉ w := by decide
  have hnumber : decimal first = Nat.toDigits 10 first := decimal_natCast first
  have hne : decimal first ≠ [] := by
    rw [hnumber]
    exact Nat.toDigits_ne_nil
  have hdigits : ∀ c ∈ decimal first, c.isDigit = true := by
    rw [hnumber]
    exact fun c hc => Nat.isDigit_of_mem_toDigits (by decide) (by decide) hc
  have hstop := fills_stop hne hdigits (hbrace _ (blankValue_mem type))
  have htext : ofString "$\x7b" ++ decimal first ++ ofString ":" ++ type.blankValue ++
      ofString "\x7d" =
        '$' :: '\x7b' :: (decimal first ++ ':' :: (type.blankValue ++ ['\x7d'])) := by
    simp [ofString]
  rwa [htext]

theorem fills_placeholders (first : Nat) (params : List ParamSpec) :
    Fills (join (Description.placeholdersFrom first params)) (join (blanks params))
      (numbered first params) := by
  induction params generalizing first with
  | nil => exact ⟨[], fun _ => rfl, rfl, rfl⟩
  | cons p ps ih =>
    have hhead := fills_placeholder first p.type
    cases ps with
    | nil => exact hhead
    | cons q qs =>
      have hcomma : Fills (ofString ", ") (ofString ", ") [] := fills_plain (by decide)
      exact (hhead.append hcomma).append (ih (first + 1))

/-- What stands behind the name in the snippet of a command. -/
def brackets (params : List ParamSpec) : Text :=
  ofString " [" ++ (join (Description.placeholdersFrom 1 params) ++ ofString "]")

theorem snippet_eq (k : Contract) : k.describe.snippet = k.name ++ brackets k.required := by
  rw [Description.snippet, brackets, List.append_assoc, List.append_assoc]
  rfl

/-- **The placeholders stand between the brackets**, numbered from one. -/
theorem fills_brackets (params : List ParamSpec) :
    Fills (brackets params) (ofString " [" ++ (join (blanks params) ++ [']']))
      (numbered 1 params) := by
  have hopen : Fills (ofString " [") (ofString " [") [] := fills_plain (by decide)
  have hclose : Fills (ofString "]") [']'] [] := fills_plain (by decide)
  have hfills := hopen.append ((fills_placeholders 1 params).append hclose)
  rwa [List.nil_append, List.append_nil] at hfills

/-- **The snippet of a command** stands for the command with blank values. -/
theorem fills_snippet {k : Contract} (hname : '$' ∉ k.name) :
    Fills k.describe.snippet (commandLine k.name (join (blanks k.required)))
      (numbered 1 k.required) := by
  have hfills := (fills_plain hname).append (fills_brackets k.required)
  rwa [← snippet_eq, ← List.append_assoc, ← List.append_assoc, List.nil_append] at hfills

end Snippet

/-! ## A line of blank values -/

open Snippet

section BlankLine

variable {ws : List Text} {f : Facts} {raw command content : Text} {marks : List Text} {index : Nat}

/-- **Blank values are the tokens of their line.** -/
theorem splitParams_blanks (h : ∀ w ∈ ws, w ∈ blankTexts) : splitParams (join ws) = ws := by
  have htrim : ∀ w ∈ blankTexts, trim w = w := by decide
  have hwhole : ∀ w ∈ blankTexts, findFrom ',' start w = none := by decide
  have hclosed : ∀ w ∈ blankTexts, (start.after w).inQuotes = false := by decide
  have heven : ∀ w ∈ blankTexts, ¬ EndsOdd w := by decide
  have hne : ∀ w ∈ blankTexts, w ≠ [] := by decide
  have htokens : Tokens ws := by
    refine ⟨fun w hw => ?_, fun w hw => hwhole w (h w hw), fun w hw => ?_⟩
    · rw [← htrim w (h w hw)]
      exact trim_trimmed w
    · exact hclosed w (h w (List.dropLast_subset _ hw))
  refine htokens.splitParams_join (fun hlast => ?_) fun w hw => ?_
  · exact hne [] (h [] (List.mem_of_getLast? hlast)) rfl
  · exact heven w (h w (List.dropLast_subset _ hw))

/-- No line feed is in a line of blank values. -/
theorem feed_not_mem_blanks (h : ∀ w ∈ ws, w ∈ blankTexts) : '\n' ∉ join ws := by
  have hfeed : ∀ w ∈ blankTexts, '\n' ∉ w := by decide
  intro hmem
  rcases mem_joinWith hmem with hsep | ⟨w, hw, hc⟩
  · exact absurd hsep (by decide)
  · exact hfeed w (h w hw) hc

theorem foldl_addHeader_blanks (h : ∀ w ∈ ws, w ∈ blankTexts) :
    ws.foldl Facts.addHeader f = f := by
  have hnamed : ∀ w ∈ blankTexts, splitNamed w = none := by decide
  induction ws with
  | nil => rfl
  | cons w ws ih =>
    have hw : f.addHeader w = f := by rw [Facts.addHeader, hnamed w (h w List.mem_cons_self)]
    rw [List.foldl_cons, hw]
    exact ih fun v hv => h v (List.mem_cons_of_mem _ hv)

/-- **A line of blank values says nothing of the script**, whatever its command declares. -/
theorem addLine_of_blanks (hline : commandLine? marks raw = some (command, content))
    (h : ∀ w ∈ splitParams content, w ∈ blankTexts) : f.addLine marks index raw = f := by
  have hquoted : ∀ w ∈ blankTexts, quotedName? w = none := by decide
  have hname : (splitParams content).head?.bind quotedName? = none := by
    cases hhead : (splitParams content).head? with
    | none => rfl
    | some w => exact hquoted w (h w (List.mem_of_head? hhead))
  unfold Facts.addLine
  simp only [hline]
  split
  · rfl
  · exact foldl_addHeader_blanks h
  · split
    · rename_i hsome
      rw [hname] at hsome
      cases hsome
    · rfl

/-- There are literals of the type. -/
def ParamType.HasLiterals (type : ParamType) : Prop :=
  type = .string ∨ type = .int ∨ type = .bool

instance (type : ParamType) : Decidable type.HasLiterals :=
  inferInstanceAs (Decidable (_ ∨ _ ∨ _))

theorem checkValue_blank {p : ParamSpec} (hp : p.type.HasLiterals) (facts : Facts) (place : Place) :
    checkValue facts p place p.type.blankValue = [] := by
  rcases hp with h | h | h
  all_goals
    simp only [checkValue, h]
    rfl

/-- Blank values are what the required parameters ask for. -/
theorem checkRequired_blanks {ps : List ParamSpec} (hps : ∀ p ∈ ps, p.type.HasLiterals)
    (facts : Facts) (command : Text) : checkRequired facts command ps (blanks ps) = [] := by
  induction ps with
  | nil => rfl
  | cons p ps ih =>
    obtain ⟨hp, hrest⟩ := List.forall_mem_cons.mp hps
    rw [blanks, List.map_cons, checkRequired, checkValue_blank hp, List.nil_append]
    exact ih hrest

variable {catalog : Catalog} {k : Contract}

theorem checkVersion_without_target (hfacts : facts.version = none) (h : ¬ OverlongTag k.since) :
    checkVersion facts k = .ok [] := by
  have htarget : versionNumber [] = .ok none := rfl
  simp only [checkVersion, hfacts, Option.getD_none, htarget, versionNumber_of_not_overlong h]
  rfl

/-- **The linter finds nothing in a line of blank values** for the required parameters of a known
command. -/
theorem validate_blankLine (hname : isIdentifier k.name = true)
    (hfind : catalog.find? k.name = some k) (hps : ∀ p ∈ k.required, p.type.HasLiterals)
    (hsince : ¬ OverlongTag k.since) :
    validate catalog defaultMarks (commandLine k.name (join (blanks k.required))) = .ok [] := by
  have hblank := blanks_mem k.required
  have hsplit := splitParams_blanks hblank
  have hline := commandLine?_commandLine hname (feed_not_mem_blanks hblank)
  have hlines := splitLines_of_not_mem
    (feed_not_mem_commandLine hname (feed_not_mem_blanks hblank))
  have hfacts : collectFacts defaultMarks (commandLine k.name (join (blanks k.required))) = {} := by
    rw [collectFacts, hlines, Facts.addLines, Facts.addLines]
    exact addLine_of_blanks hline (by rwa [hsplit])
  have hparams : checkParams {} k (blanks k.required) = [] := by
    have hrest : (blanks k.required).drop k.required.length = [] :=
      List.drop_eq_nil_of_le (Nat.le_of_eq (List.length_map _))
    rw [checkParams, checkRequired_blanks hps, hrest]
    cases k.trailing <;> rfl
  have hcheck : checkLine catalog defaultMarks {} (commandLine k.name (join (blanks k.required))) =
      .ok [] := by
    rw [checkLine_of_known hline hfind, checkVersion_without_target rfl hsince, hsplit, hparams]
    rfl
  refine validate_eq_nil ?_ ?_
  · rw [hfacts, hlines, checkLines, hcheck]
    rfl
  · rw [hfacts]
    rfl

/-- **A line of blank values is read as its command**, with one positional parameter for each
value. -/
theorem ofLine_blankLine (hname : isIdentifier k.name = true) (line : Int) :
    ∃ s, Statement.ofLine defaultMarks line (commandLine k.name (join (blanks k.required))) =
        some s ∧ s.command = k.name ∧ s.params.length = k.required.length ∧
      ∀ p ∈ s.params, p.isPositional = true := by
  have hblank := blanks_mem k.required
  have hpositional : ∀ w ∈ blankTexts, (Param.ofToken w).isPositional = true := by decide
  have hmatch := commandLine?_eq_some_iff.mp
    (commandLine?_commandLine hname (feed_not_mem_blanks hblank))
  refine ⟨_, Statement.ofLine_eq_some_iff.mpr ⟨hmatch.1, _, _, hmatch.2, rfl⟩, rfl, ?_, ?_⟩
  · rw [splitParams_blanks hblank, List.length_map, blanks, List.length_map]
  · rw [splitParams_blanks hblank]
    intro p hp
    obtain ⟨w, hw, rfl⟩ := List.mem_map.mp hp
    exact hpositional w (hblank w hw)

end BlankLine

/-! ## Offers -/

/-- The default can be shown: it is no integer with too many digits. -/
def Scalar.Writable : Scalar → Prop
  | .int i => ¬ Unwritable i
  | .bool _ => True
  | .text _ => True

instance : DecidablePred Scalar.Writable
  | .int i => inferInstanceAs (Decidable (¬ Unwritable i))
  | .bool _ => .isTrue trivial
  | .text _ => .isTrue trivial

/-- All defaults of the contract can be shown. -/
def Contract.Presentable (k : Contract) : Prop :=
  ∀ p ∈ k.describe.params, ∀ d ∈ p.default, d.Writable

instance (k : Contract) : Decidable k.Presentable :=
  inferInstanceAs (Decidable (∀ p ∈ k.describe.params, ∀ d ∈ p.default, d.Writable))

theorem Scalar.exists_shown_iff {d : Scalar} : (∃ t, d.shown = .ok t) ↔ d.Writable := by
  cases d with
  | int i =>
    simp only [shown, limitedDecimal_eq_ok_iff, Writable]
    constructor
    · rintro ⟨t, hi, -⟩
      exact hi
    · intro hi
      exact ⟨_, hi, rfl⟩
  | bool b => exact iff_of_true ⟨_, rfl⟩ trivial
  | text t => exact iff_of_true ⟨_, rfl⟩ trivial

theorem ParamSpec.exists_signature_iff {p : ParamSpec} :
    (∃ t, p.signature = .ok t) ↔ ∀ d ∈ p.default, d.Writable := by
  unfold signature
  cases p.default with
  | none => exact iff_of_true ⟨_, rfl⟩ nofun
  | some d =>
    simp only [map_eq_ok_iff, Option.mem_some_iff, forall_eq', ← Scalar.exists_shown_iff]
    constructor
    · rintro ⟨_, t, ht, -⟩
      exact ⟨t, ht⟩
    · rintro ⟨t, ht⟩
      exact ⟨_, t, ht, rfl⟩

/-- **A command can be offered iff the defaults of its parameters can be written.** -/
theorem Contract.exists_completion_iff {k : Contract} :
    (∃ item, k.describe.completion = .ok item) ↔ k.Presentable := by
  simp only [Presentable, ← ParamSpec.exists_signature_iff, ← exists_mapM_eq_ok_iff,
    Description.completion, Description.signature, map_eq_ok_iff]
  constructor
  · rintro ⟨_, _, ⟨params, hparams, -⟩, -⟩
    exact ⟨params, hparams⟩
  · rintro ⟨params, hparams⟩
    exact ⟨_, _, ⟨params, hparams, rfl⟩, rfl⟩

theorem Contract.of_completion {k : Contract} {item : Completion}
    (h : k.describe.completion = .ok item) :
    item.label = k.name ∧ item.insertText = k.describe.snippet := by
  obtain ⟨detail, -, rfl⟩ := map_eq_ok_iff.mp h
  exact ⟨rfl, rfl⟩

namespace Catalog

variable {c : Catalog} {cs : List Contract}

/-- **What is offered** are the contracts of the listing whose names open with what has been
typed. -/
theorem completions_eq (h : c.Holds cs) (typed : Text) :
    c.completions typed =
      (c.contracts.filter fun k => (lower typed).isPrefixOf (lower k.name)).mapM
        fun k => k.describe.completion := by
  have hdescribed : ∀ k ∈ c.contracts.filter fun k => (lower typed).isPrefixOf (lower k.name),
      c.describe k.name = some k.describe := by
    intro k hk
    have hmem := h.contracts_perm.mem_iff.mp (List.mem_of_mem_filter hk)
    simp [describe, h.find?_name hmem]
  rw [completions, List.filterMap_congr hdescribed, List.filterMap_eq_map', List.mapM_map]
  rfl

/-- **Something is offered iff all that could be can be offered.** -/
theorem exists_completions_iff (h : c.Holds cs) (typed : Text) :
    (∃ items, c.completions typed = .ok items) ↔
      ∀ k ∈ cs, lower typed <+: lower k.name → k.Presentable := by
  simp only [completions_eq h, exists_mapM_eq_ok_iff, Contract.exists_completion_iff,
    List.mem_filter, h.contracts_perm.mem_iff, List.isPrefixOf_iff_prefix, and_imp]

theorem mem_completions (h : c.Holds cs) {typed : Text} {items : List Completion}
    (hitems : c.completions typed = .ok items) {k : Contract} {item : Completion} (hk : k ∈ cs)
    (htyped : lower typed <+: lower k.name) (hitem : k.describe.completion = .ok item) :
    item ∈ items := by
  rw [completions_eq h] at hitems
  refine mem_of_mapM_eq_ok hitems ?_ hitem
  exact List.mem_filter.mpr ⟨h.contracts_perm.mem_iff.mpr hk, List.isPrefixOf_iff_prefix.mpr htyped⟩

end Catalog

/-- **Accepting a completion gives a clean line.** What is offered for a text are all contracts
whose lower-case names open with it in lower case, each once, strictly ascending; without any
contracts, those of the standard catalog. All offers are refused if one of these contracts has a
default with too many digits to be written, and for nothing else. The placeholders behind the name of
an offer are those of the required parameters, numbered from one, and there are no others unless the
name has a dollar sign. Let the command be an identifier, its required parameters of types that have
literals, and the tag of its release not overlong. With all placeholders replaced by their defaults,
the offer is read as that command with one positional parameter for each required one, and the linter
finds nothing in it. -/
theorem completions_clean {contracts : List Contract} {aliases : List (Text × Text)}
    {given : Catalog} (hgiven : Catalog.ofContracts contracts aliases = .ok given) (typed : Text) :
    ∃ offered : List Contract,
      (given.orElse .standard).completions typed =
        offered.mapM (fun k => k.describe.completion) ∧
      ((∃ items, (given.orElse .standard).completions typed = .ok items) ↔
        ∀ k ∈ offered, k.Presentable) ∧
      (∀ k, k ∈ offered ↔ k ∈ Catalog.held contracts ∧ lower typed <+: lower k.name) ∧
      (offered.Pairwise fun k l => Before (lower k.name) (lower l.name)) ∧
      ∀ k ∈ offered, ∀ item, k.describe.completion = .ok item →
        item.label = k.name ∧
        (∃ rest, item.insertText = k.name ++ rest ∧
          stops rest = (k.required.zipIdx 1).map (fun e => (decimal e.2, e.1.type.blankValue)) ∧
          ('$' ∉ k.name → stops item.insertText = stops rest)) ∧
        (isIdentifier k.name = true → (∀ p ∈ k.required, p.type.HasLiterals) →
          ¬ OverlongTag k.since →
          (∀ line, ∃ s, Statement.ofLine defaultMarks line (accepted item.insertText) = some s ∧
            s.command = k.name ∧ s.params.length = k.required.length ∧
            ∀ p ∈ s.params, p.isPositional = true) ∧
          validate (given.orElse .standard) defaultMarks (accepted item.insertText) = .ok []) := by
  have hholds := Catalog.holds_orElse hgiven
  have heq := Catalog.completions_eq hholds typed
  refine ⟨_, heq, ?_, fun k => ?_, ?_, fun k hk item hitem => ?_⟩
  · rw [heq, exists_mapM_eq_ok_iff]
    exact forall₂_congr fun k _ => Contract.exists_completion_iff
  · rw [List.mem_filter, hholds.contracts_perm.mem_iff, List.isPrefixOf_iff_prefix]
  · exact hholds.pairwise_contracts.sublist List.filter_sublist
  · obtain ⟨hlabel, hinsert⟩ := Contract.of_completion hitem
    rw [hinsert]
    refine ⟨hlabel, ?_, fun hname hps hsince => ?_⟩
    · have hrest := (fills_brackets k.required).read.2
      refine ⟨brackets k.required, snippet_eq k, hrest, fun hdollar => ?_⟩
      exact (fills_snippet hdollar).read.2.trans hrest.symm
    · have hdollar : '$' ∉ k.name := not_mem_of_isIdentifier hname (by decide)
      have hmem := hholds.contracts_perm.mem_iff.mp (List.mem_of_mem_filter hk)
      have haccepted : accepted k.describe.snippet =
          commandLine k.name (join (blanks k.required)) := (fills_snippet hdollar).read.1
      rw [haccepted]
      exact ⟨ofLine_blankLine hname, validate_blankLine hname (hholds.find?_name hmem) hps hsince⟩

/-- A contract with a required parameter of each type. -/
def greeting : Contract where
  name := ofString "Greet"
  since := ofString "4.1.0s"
  required := [
    { name := ofString "who", type := .string }, { name := ofString "times", type := .int },
    { name := ofString "loud", type := .bool }]

theorem completions_clean_greeting : ∃ given items item,
    Catalog.ofContracts [greeting] [] = .ok given ∧
    (given.orElse .standard).completions (ofString "gRE") = .ok items ∧ item ∈ items ∧
    greeting.describe.completion = .ok item ∧
    accepted item.insertText = ofString "Greet [\"\", 0, false]" ∧
    validate (given.orElse .standard) defaultMarks (accepted item.insertText) = .ok [] := by
  obtain ⟨given, hgiven⟩ : ∃ given, Catalog.ofContracts [greeting] [] = .ok given := ⟨_, rfl⟩
  obtain ⟨offered, -, hreturned, hoffered, -, hclean⟩ := completions_clean hgiven (ofString "gRE")
  have hholds := Catalog.holds_orElse hgiven
  have hpresentable : ∀ k ∈ [greeting], k.Presentable := by decide
  have htyped : lower (ofString "gRE") <+: lower greeting.name := List.isPrefixOf_iff_prefix.mp rfl
  have hgreeting : greeting ∈ offered := (hoffered greeting).mpr ⟨List.mem_cons_self, htyped⟩
  obtain ⟨items, hitems⟩ := hreturned.mpr fun k hk => hpresentable k ((hoffered k).mp hk).1
  obtain ⟨item, hitem⟩ := Contract.exists_completion_iff.mpr
    (hpresentable greeting List.mem_cons_self)
  have htypes : ∀ p ∈ greeting.required, p.type.HasLiterals := by decide
  obtain ⟨-, -, hlint⟩ := hclean greeting hgreeting item hitem
  have htext : accepted item.insertText = ofString "Greet [\"\", 0, false]" := by
    rw [(Contract.of_completion hitem).2]
    decide
  exact ⟨given, items, item, hgiven, hitems,
    Catalog.mem_completions hholds hitems List.mem_cons_self htyped hitem, hitem, htext,
    (hlint rfl htypes (by decide)).2⟩

/-- A contract with a default that has too many digits. -/
def tall : Contract where
  name := ofString "Climb"
  since := ofString "4.1.0s"
  optional := [
    { name := ofString "to", type := .int, default := some (.int (10 ^ maxDigits : Nat)) }]

theorem not_presentable_tall : ¬ tall.Presentable := by
  intro h
  refine h _ List.mem_cons_self _ rfl ?_
  exact unwritable_iff.mpr (Nat.le_of_eq (Int.natAbs_natCast _).symm)

theorem presentable_standard : ∀ k ∈ Standard.contracts, k.Presentable := by
  decide +kernel

/-- **Not every catalog has its own contracts offered.** Without contracts the standard ones are
offered, none of which was given; and a contract with a default that is too long to be written leaves
no offers at all. -/
theorem completions_deviate :
    (¬ ∀ (contracts : List Contract) (aliases : List (Text × Text)) (given : Catalog) (typed : Text)
      (items : List Completion), Catalog.ofContracts contracts aliases = .ok given →
        (given.orElse .standard).completions typed = .ok items →
        ∀ item ∈ items, ∃ k ∈ contracts, k.describe.completion = .ok item) ∧
    ∃ given, Catalog.ofContracts [tall] [] = .ok given ∧
      ∀ items, (given.orElse .standard).completions [] ≠ .ok items := by
  have hempty : Catalog.ofContracts [] [] = .ok { table := [], aliases := [] } := rfl
  have htall : Catalog.ofContracts [tall] [] =
      .ok { table := [(lower tall.name, tall)], aliases := [] } := rfl
  constructor
  · intro h
    have hholds := Catalog.holds_orElse hempty
    obtain ⟨items, hitems⟩ := (Catalog.exists_completions_iff hholds []).mpr
      fun k hk _ => presentable_standard k hk
    obtain ⟨item, hitem⟩ := Contract.exists_completion_iff.mpr
      (presentable_standard _ List.mem_cons_self)
    have hmem := Catalog.mem_completions hholds hitems List.mem_cons_self List.nil_prefix hitem
    obtain ⟨k, hk, -⟩ := h [] [] _ [] items hempty hitems item hmem
    cases hk
  · refine ⟨_, htall, fun items hitems => not_presentable_tall ?_⟩
    exact (Catalog.exists_completions_iff (Catalog.holds_orElse htall) []).mp ⟨items, hitems⟩ tall
      List.mem_cons_self List.nil_prefix

end Dialogue
