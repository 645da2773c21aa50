import Dialogue.Proofs.Catalog.Games
import Dialogue.Proofs.Lint.Headers
import Dialogue.Proofs.Lint.Order
import Dialogue.Proofs.Lint.Releases
import Mathlib.Data.List.Forall2

/-!
# The game of a script by any spelling

A header names the game that a script is written for. Commands that the game does not have are
warned of, and the warning names the game as it is called canonically. So a game that is known may
be spelled in any letter case and with blanks around it. Only a title without any characters is
taken for none, whatever it is an alias of.

* `Regamed`: two scripts that differ in how headers spell the game;
* `SameGame`: two titles of one game, or none;
* `Regamed.version_eq`, `Regamed.game`: what the headers of both scripts say in the end;
* `gameProblems`, **`gameWarnings_validate`**: the warnings, line by line;
* **`games_resolved`**: games are called by the same names in whatever spelling, and the warnings
  are the same;
* `games_told_apart`: what does not hold of titles that are empty, and of names that are no longer
  in force.
-/

namespace Dialogue

open Text Script

namespace Lint

variable {catalog : Catalog} {marks : List Text} {facts facts' : Facts} {ds ds' : List Diagnostic}
  {raw raw' source source' g h : Text} {R : Text → Text → Prop}

/-! ## Scripts that differ in the spelling of the game -/

/-- The tokens are the same, but for the title that they give for the game. -/
def RegamedToken (R : Text → Text → Prop) (t t' : Text) : Prop :=
  t' = t ∨ ∃ g g', fieldOf? (ofString "game") t = some g ∧
    fieldOf? (ofString "game") t' = some g' ∧ R g g'

/-- The lines are the same, or headers that differ in such tokens only. -/
def RegamedLine (R : Text → Text → Prop) (marks : List Text) (raw raw' : Text) : Prop :=
  raw' = raw ∨ ∃ command content content', commandLine? marks raw = some (command, content) ∧
    commandLine? marks raw' = some (command, content') ∧ lower command = ofString "meta" ∧
    List.Forall₂ (RegamedToken R) (splitParams content) (splitParams content')

/-- The scripts differ only in how headers spell the game, as `R` says. -/
def Regamed (R : Text → Text → Prop) (marks : List Text) (source source' : Text) : Prop :=
  List.Forall₂ (RegamedLine R marks) (splitLines source) (splitLines source')

/-- Titles that are looked up by the same key, both with characters or both without. -/
structure SameGame (g h : Text) : Prop where
  key : gameKey g = gameKey h
  given : g = [] ↔ h = []

theorem SameGame.refl (g : Text) : SameGame g g := ⟨rfl, Iff.rfl⟩

theorem RegamedToken.version_eq {t t' : Text} (ht : RegamedToken R t t') :
    fieldOf? (ofString "version") t' = fieldOf? (ofString "version") t := by
  have hnone : ∀ {t g}, fieldOf? (ofString "game") t = some g →
      fieldOf? (ofString "version") t = none := by
    intro t g hg
    obtain ⟨⟨name, value⟩, hnamed, hvalue⟩ := Option.bind_eq_some_iff.mp hg
    have hname : name = ofString "game" := by
      by_contra hne
      exact Option.some_ne_none _ ((if_neg hne).symm.trans hvalue).symm
    rw [fieldOf?, hnamed, hname]
    rfl
  rcases ht with rfl | ⟨g, g', hg, hg', -⟩
  · rfl
  · rw [hnone hg, hnone hg']

theorem RegamedToken.game (hR : ∀ g, R g g) {t t' : Text} (ht : RegamedToken R t t') :
    Option.Rel R (fieldOf? (ofString "game") t) (fieldOf? (ofString "game") t') := by
  rcases ht with rfl | ⟨g, g', hg, hg', hsame⟩
  · cases fieldOf? (ofString "game") t' with
    | none => exact .none
    | some g => exact .some (hR g)
  · rw [hg, hg']
    exact .some hsame

theorem RegamedLine.version_eq (hline : RegamedLine R marks raw raw') :
    headerValues (ofString "version") marks raw' = headerValues (ofString "version") marks raw := by
  rcases hline with rfl | ⟨command, content, content', hraw, hraw', hmeta, htokens⟩
  · rfl
  · simp only [headerValues, hraw, hraw', if_pos hmeta]
    generalize splitParams content = ts, splitParams content' = ts' at htokens
    induction htokens with
    | nil => rfl
    | cons ht _ ih => rw [List.filterMap_cons, List.filterMap_cons, ht.version_eq, ih]

theorem RegamedLine.game (hR : ∀ g, R g g) (hline : RegamedLine R marks raw raw') :
    List.Forall₂ R (headerValues (ofString "game") marks raw)
      (headerValues (ofString "game") marks raw') := by
  rcases hline with rfl | ⟨command, content, content', hraw, hraw', hmeta, htokens⟩
  · exact List.forall₂_same.mpr fun g _ => hR g
  · simp only [headerValues, hraw, hraw', if_pos hmeta]
    exact List.rel_filterMap (fun _ _ ht => ht.game hR) htokens

/-- Neither line has a command, or both have the same one. -/
theorem RegamedLine.find?_eq (hline : RegamedLine R marks raw raw') (catalog : Catalog) :
    ((commandLine? marks raw').bind fun parts => catalog.find? parts.1) =
      (commandLine? marks raw).bind fun parts => catalog.find? parts.1 := by
  rcases hline with rfl | ⟨command, content, content', hraw, hraw', -, -⟩
  · rfl
  · rw [hraw, hraw', Option.bind_some, Option.bind_some]

namespace Regamed

/-- What is the same on each line is the same of the scripts. -/
theorem flatMap_eq {α : Type} {f : Text → List α} (h : Regamed R marks source source')
    (hf : ∀ {raw raw'}, RegamedLine R marks raw raw' → f raw' = f raw) :
    (splitLines source').flatMap f = (splitLines source).flatMap f := by
  unfold Regamed at h
  generalize splitLines source = lines, splitLines source' = lines' at h
  induction h with
  | nil => rfl
  | cons hline _ ih => rw [List.flatMap_cons, List.flatMap_cons, hf hline, ih]

theorem line {i : Nat} (h : Regamed R marks source source')
    (hraw : (splitLines source)[i]? = some raw) (hraw' : (splitLines source')[i]? = some raw') :
    RegamedLine R marks raw raw' := by
  obtain ⟨hi, rfl⟩ := List.getElem?_eq_some_iff.mp hraw
  obtain ⟨hi', rfl⟩ := List.getElem?_eq_some_iff.mp hraw'
  exact List.Forall₂.get h hi hi'

/-- **Both scripts are for the same release.** -/
theorem version_eq (h : Regamed R marks source source') :
    (collectFacts marks source').version = (collectFacts marks source).version := by
  rw [Facts.follows_version.collectFacts_eq, Facts.follows_version.collectFacts_eq, valuesOf,
    valuesOf, h.flatMap_eq RegamedLine.version_eq]

/-- **Both scripts are for the same game**, if they are for one. -/
theorem game (hR : ∀ g, R g g) (h : Regamed R marks source source')
    (hg : (collectFacts marks source).game = some g) :
    ∃ g', (collectFacts marks source').game = some g' ∧ R g g' := by
  rw [Facts.follows_game.collectFacts_eq, List.getLast?_eq_head?_reverse] at hg ⊢
  obtain ⟨before, hvalues⟩ := List.head?_eq_some_iff.mp hg
  have hrel : List.Forall₂ R (valuesOf (ofString "game") marks source).reverse
      (valuesOf (ofString "game") marks source').reverse :=
    List.rel_reverse (List.rel_flatMap h fun _ _ hline => hline.game hR)
  rw [hvalues] at hrel
  obtain ⟨g', before', hsame, -, hvalues'⟩ := List.forall₂_cons_left_iff.mp hrel
  exact ⟨g', by rw [hvalues', List.head?_cons], hsame⟩

/-- **The linter refuses both scripts for the same**, if it does. -/
theorem refusal?_validate_eq (h : Regamed R marks source source') (catalog : Catalog) :
    refusal? (validate catalog marks source') = refusal? (validate catalog marks source) := by
  rw [refusal?_validate, refusal?_validate, compared, compared, ← collectFacts_version,
    ← collectFacts_version, h.version_eq]
  congr 1
  refine h.flatMap_eq fun hline => ?_
  unfold comparedOn
  rw [hline.find?_eq]

end Regamed

/-! ## Warnings -/

/-- The warnings that a command is not one of the script's game. -/
def gameWarnings (ds : List Diagnostic) : List Diagnostic :=
  ds.filter fun d => d.code = ofString "COMPAT_GAME"

/-- What is wrong with the game on a line. -/
def gameProblems (catalog : Catalog) (marks : List Text) (facts : Facts) (raw : Text) :
    List Problem :=
  match (commandLine? marks raw).bind fun parts => catalog.find? parts.1 with
  | none => []
  | some c => checkGame catalog facts c

theorem filter_code_checkGame (catalog : Catalog) (facts : Facts) (c : Contract) :
    (checkGame catalog facts c).filter (fun x => x.code = ofString "COMPAT_GAME") =
      checkGame catalog facts c :=
  List.filter_eq_self.mpr fun x hx => by
    obtain ⟨game, rfl⟩ := eq_otherGame_of_mem_checkGame hx
    rfl

/-- Neither the release of a command nor its parameters are problems with the game. -/
theorem filter_code_of_known {version : List Problem} {c : Contract}
    (hversion : checkVersion facts c = .ok version) (tokens : List Text) :
    (version ++ checkGame catalog facts c ++ checkParams facts c tokens).filter
        (fun x => x.code = ofString "COMPAT_GAME") =
      checkGame catalog facts c := by
  have hno : version.filter (fun x => x.code = ofString "COMPAT_GAME") = [] := by
    rcases checkVersion_cases hversion with rfl | ⟨target, rfl⟩ <;> rfl
  have hparams : (checkParams facts c tokens).filter
      (fun x => x.code = ofString "COMPAT_GAME") = [] := by
    refine List.filter_eq_nil_iff.mpr fun x hx => ?_
    have hof := checkParams_ofParams facts c tokens x hx
    cases x with
    | otherGame _ _ _ => cases hof
    | _ => simp [Problem.code, ofString]
  rw [List.filter_append, List.filter_append, hno, hparams, filter_code_checkGame, List.nil_append,
    List.append_nil]

/-- Among the problems of a line that is read, these are the ones with the game. -/
theorem filter_code_lineProblems {problems : List Problem}
    (hline : checkLine catalog marks facts raw = .ok problems) :
    problems.filter (fun x => x.code = ofString "COMPAT_GAME") =
      gameProblems catalog marks facts raw := by
  unfold gameProblems
  cases hcommand : commandLine? marks raw with
  | none =>
    rw [checkLine_of_no_command hcommand] at hline
    obtain rfl := Except.ok.inj hline
    split <;> rfl
  | some parts =>
    obtain ⟨command, content⟩ := parts
    rw [Option.bind_some]
    cases hfind : catalog.find? command with
    | none =>
      rw [checkLine_of_unknown hcommand hfind] at hline
      obtain rfl := Except.ok.inj hline
      rfl
    | some c =>
      rw [checkLine_of_known hcommand hfind] at hline
      obtain ⟨version, hversion, rfl⟩ := map_eq_ok_iff.mp hline
      exact filter_code_of_known hversion _

/-- A line has one such problem at most. -/
theorem length_gameProblems (catalog : Catalog) (marks : List Text) (facts : Facts) (raw : Text) :
    (gameProblems catalog marks facts raw).length ≤ 1 := by
  unfold gameProblems
  split
  · exact Nat.zero_le 1
  · rename_i c _
    rcases checkGame_cases catalog facts c with hgame | ⟨game, hgame⟩ <;> rw [hgame] <;> simp

/-- What is reported of the problem with the game on a line. -/
def gameRemarks (catalog : Catalog) (marks : List Text) (facts : Facts) (index : Nat)
    (raw : Text) : List Diagnostic :=
  (gameProblems catalog marks facts raw).map (·.diagnostic (lineRange index raw))

theorem line_gameRemarks {i : Nat} {d : Diagnostic}
    (hd : d ∈ gameRemarks catalog marks facts i raw) : d.range.line = i := by
  obtain ⟨x, -, rfl⟩ := List.mem_map.mp hd
  rfl

theorem length_gameRemarks (catalog : Catalog) (marks : List Text) (facts : Facts) (index : Nat)
    (raw : Text) : (gameRemarks catalog marks facts index raw).length ≤ 1 := by
  rw [gameRemarks, List.length_map]
  exact length_gameProblems catalog marks facts raw

theorem gameWarnings_remarks
    (hline : checkLine catalog marks facts raw = .ok (lineProblems catalog marks facts raw))
    (index : Nat) : gameWarnings (remarks catalog marks facts index raw) =
      gameRemarks catalog marks facts index raw := by
  rw [gameWarnings, remarks, gameRemarks, ← filter_code_lineProblems hline, List.filter_map]
  rfl

theorem gameWarnings_conflictDiagnostics (marks : List Text) (source : Text) :
    gameWarnings (conflictDiagnostics (collectFacts marks source)) = [] := by
  rw [conflictDiagnostics_eq_gather]
  refine List.filter_eq_nil_iff.mpr fun d hd => ?_
  obtain ⟨i, raw, -, hmem⟩ := mem_gather_iff.mp hd
  rw [(of_mem_redeclarations hmem).1]
  decide

/-- **The linter warns of what is wrong with the game on each line**, in the order of the lines. -/
theorem gameWarnings_validate (hlint : validate catalog marks source = .ok ds) :
    gameWarnings ds =
      gather (gameRemarks catalog marks (collectFacts marks source)) 0 (splitLines source) := by
  obtain ⟨hall, rfl⟩ := validate_eq_sort hlint
  have hlines : gameWarnings (gather (remarks catalog marks (collectFacts marks source)) 0
      (splitLines source)) =
        gather (gameRemarks catalog marks (collectFacts marks source)) 0 (splitLines source) := by
    rw [gameWarnings, ← List.filterMap_eq_filter, filterMap_gather]
    refine gather_congr rfl fun i raw raw' hraw hraw' => ?_
    obtain rfl := Option.some.inj (hraw.symm.trans hraw')
    rw [List.filterMap_eq_filter]
    exact gameWarnings_remarks (hall raw (List.mem_of_getElem? hraw)) _
  have hall : gameWarnings (gather (remarks catalog marks (collectFacts marks source)) 0
      (splitLines source) ++ conflictDiagnostics (collectFacts marks source)) =
        gather (gameRemarks catalog marks (collectFacts marks source)) 0 (splitLines source) := by
    rw [← hlines, gameWarnings, List.filter_append, ← gameWarnings,
      ← gameWarnings, gameWarnings_conflictDiagnostics, List.append_nil]
  -- of a line there is one warning at most, so that sorting leaves them as they are
  have hordered : (gather (gameRemarks catalog marks (collectFacts marks source)) 0
      (splitLines source)).Pairwise fun a b => a.le b = true :=
    (pairwise_gather (fun _ _ _ => line_gameRemarks) (length_gameRemarks catalog marks _) 0
      _).imp Diagnostic.le_of_line_lt
  rw [← hall]
  exact filter_sortDiagnostics _ (by rwa [← gameWarnings, hall])

/-! ## The same warnings -/

/-- **A game that is known is the same under all of its titles**, as long as none of them or all
are empty. -/
theorem checkGame_eq (hg : facts.game = some g) (hh : facts'.game = some h) (hsame : SameGame g h)
    (hknown : catalog.KnowsGame g) (c : Contract) :
    checkGame catalog facts' c = checkGame catalog facts c := by
  have hgiven : h.isEmpty = g.isEmpty := by
    rw [Bool.eq_iff_iff, List.isEmpty_iff, List.isEmpty_iff]
    exact hsame.given.symm
  have hname : catalog.resolveGame h = catalog.resolveGame g := by
    rcases catalog.resolveGame_cases hsame.key with ⟨-, -, e, -, hg, hh⟩ | ⟨hunknown, -⟩
    · rw [hg, hh]
    · exact absurd hknown hunknown
  unfold checkGame
  rw [hg, hh]
  dsimp only
  rw [hgiven, hname]

/-- The diagnostic on the line that has its number in a source, from end to end. -/
def placedIn (source : Text) (d : Diagnostic) : Diagnostic :=
  { d with range := lineRange d.range.line.toNat ((splitLines source).getD d.range.line.toNat []) }

theorem map_placedIn_gameRemarks {i : Nat} (hraw' : (splitLines source')[i]? = some raw') :
    (gameRemarks catalog marks facts i raw).map (placedIn source') =
      (gameProblems catalog marks facts raw).map (·.diagnostic (lineRange i raw')) := by
  rw [gameRemarks, List.map_map]
  refine List.map_congr_left fun x _ => ?_
  have hline : (splitLines source').getD i [] = raw' := by rw [List.getD, hraw', Option.getD_some]
  change { x.diagnostic (lineRange i raw) with
    range := lineRange (i : Int).toNat ((splitLines source').getD (i : Int).toNat []) } = _
  rw [Int.toNat_natCast, hline]
  rfl

/-- Scripts that are warned differently often are not warned of the same. -/
theorem not_same_warnings (hlint : validate catalog marks source = .ok ds)
    (hlint' : validate catalog marks source' = .ok ds')
    (hlength : (gather (gameRemarks catalog marks (collectFacts marks source')) 0
        (splitLines source')).length ≠
      (gather (gameRemarks catalog marks (collectFacts marks source)) 0
        (splitLines source)).length) :
    ¬ (validate catalog marks source').map gameWarnings =
      (validate catalog marks source).map fun ds => (gameWarnings ds).map (placedIn source') := by
  intro hsame
  rw [hlint, hlint'] at hsame
  have hwarnings : gameWarnings ds' = (gameWarnings ds).map (placedIn source') :=
    Except.ok.inj hsame
  rw [← gameWarnings_validate hlint, ← gameWarnings_validate hlint', hwarnings,
    List.length_map] at hlength
  exact hlength rfl

/-- **Spelling a known game otherwise changes nothing about the warnings**: both scripts are refused
for the same, or the same warnings stand on the same lines, each from end to end as its line is
written. -/
theorem Regamed.gameWarnings_eq (h : Regamed SameGame marks source source')
    (hg : (collectFacts marks source).game = some g) (hknown : catalog.KnowsGame g) :
    (validate catalog marks source').map gameWarnings =
      (validate catalog marks source).map fun ds => (gameWarnings ds).map (placedIn source') := by
  obtain ⟨g', hg', hsame⟩ := h.game SameGame.refl hg
  have hrefusal := h.refusal?_validate_eq catalog
  cases hlint : validate catalog marks source with
  | error e =>
    rw [hlint] at hrefusal
    rw [refusal?_eq_some_iff.mp hrefusal]
    rfl
  | ok ds =>
    cases hlint' : validate catalog marks source' with
    | error e =>
      rw [hlint, hlint'] at hrefusal
      cases hrefusal
    | ok ds' =>
      refine congrArg Except.ok ?_
      change gameWarnings ds' = (gameWarnings ds).map (placedIn source')
      rw [gameWarnings_validate hlint, gameWarnings_validate hlint', ← List.filterMap_eq_map,
        filterMap_gather]
      refine gather_congr (List.Forall₂.length_eq h).symm fun i raw raw' hraw hraw' => ?_
      have hproblems : gameProblems catalog marks (collectFacts marks source') raw' =
          gameProblems catalog marks (collectFacts marks source) raw := by
        unfold gameProblems
        rw [(h.line hraw hraw').find?_eq, funext (checkGame_eq hg hg' hsame hknown)]
      rw [Nat.zero_add, List.filterMap_eq_map, map_placedIn_gameRemarks hraw', gameRemarks,
        hproblems]

/-- **Games are called by the same names in whatever spelling.** If the aliases agree, as the
standard ones do, then a name that was looked up stays as it is; titles in the same folded letters
are found under one canonical name, or none is known and each stays as it is, trimmed; a canonical
name is found under itself; and the warnings of a script for a known game do not depend on how its
headers spell that game, except that a title without characters is none. -/
theorem games_resolved :
    AliasesAgree Standard.aliases ∧
    ∀ (aliases : List (Text × Text)) (catalog : Catalog), AliasesAgree aliases →
      catalog.aliases = Catalog.foldAliases aliases →
      (∀ g, catalog.resolveGame (catalog.resolveGame g) = catalog.resolveGame g) ∧
      (∀ g h, gameKey g = gameKey h →
        (catalog.KnowsGame g ∧ catalog.KnowsGame h ∧
          ∃ e ∈ aliases, catalog.resolveGame g = e.2 ∧ catalog.resolveGame h = e.2) ∨
        (¬ catalog.KnowsGame g ∧ ¬ catalog.KnowsGame h ∧
          catalog.resolveGame g = trim g ∧ catalog.resolveGame h = trim h)) ∧
      (∀ e ∈ aliases, catalog.resolveGame e.2 = e.2) ∧
      ∀ marks source source' g, Regamed SameGame marks source source' →
        (collectFacts marks source).game = some g → catalog.KnowsGame g →
        (validate catalog marks source').map gameWarnings =
          (validate catalog marks source).map fun ds =>
            (gameWarnings ds).map (placedIn source') := by
  refine ⟨aliasesAgree_standard, fun aliases catalog ha hc => ⟨ha.resolveGame_resolveGame hc, ?_,
    fun e he => ha.resolveGame_canonical hc he,
    fun marks source source' g h hg hknown => h.gameWarnings_eq hg hknown⟩⟩
  intro g h hkey
  rcases catalog.resolveGame_cases hkey with ⟨hg, hh, e, he, hnames⟩ | hunknown
  · obtain ⟨a, ha', -, hvalue⟩ := Catalog.foldAliases_sound (hc ▸ he)
    exact .inl ⟨hg, hh, a, ha', hvalue ▸ hnames⟩
  · exact .inr hunknown

/-- A catalog with headers, and a bell that some games have. -/
def bellFor (games : List Text) (aliases : List (Text × Text)) : Catalog where
  table := [
    (ofString "meta", {
      name := ofString "Meta", since := ofString "4.0.0s"
      optional := [{ name := ofString "game", type := .string }] }),
    (ofString "ring", {
      name := ofString "Ring", since := ofString "4.0.0s", games := games })]
  aliases := Catalog.foldAliases aliases

/-- The header of a script for a game. -/
def headingFor (title : Text) : Text := ofString "Meta [game=\"" ++ title ++ ofString "\"]"

/-- A script for a game that rings the bell. -/
def bellScriptFor (title : Text) : Text := headingFor title ++ ofString "\nRing []"

/-- The header names the title as it is written. -/
structure Heads (title : Text) : Prop where
  lines : splitLines (bellScriptFor title) = [headingFor title, ofString "Ring []"]
  token : ∃ content token, commandLine? defaultMarks (headingFor title) =
    some (ofString "Meta", content) ∧ splitParams content = [token] ∧
      fieldOf? (ofString "game") token = some title

theorem Heads.regamed (hg : Heads g) (hh : Heads h) (hR : R g h) :
    Regamed R defaultMarks (bellScriptFor g) (bellScriptFor h) := by
  obtain ⟨content, token, hline, htokens, hgame⟩ := hg.token
  obtain ⟨content', token', hline', htokens', hgame'⟩ := hh.token
  have htitle : List.Forall₂ (RegamedToken R) (splitParams content) (splitParams content') := by
    rw [htokens, htokens']
    exact .cons (.inr ⟨g, h, hgame, hgame', hR⟩) .nil
  rw [Regamed, hg.lines, hh.lines]
  exact .cons (.inr ⟨_, content, content', hline, hline', by decide, htitle⟩)
    (.cons (.inl rfl) .nil)

theorem games_resolved_bell :
    let bell := bellFor [ofString "Greyling Grove"] Standard.aliases
    let source := bellScriptFor (ofString "cagg")
    let source' := bellScriptFor (ofString " CagG  ")
    AliasesAgree Standard.aliases ∧ Regamed SameGame defaultMarks source source' ∧
      bell.KnowsGame (ofString "cagg") ∧
      (∃ ds, validate bell defaultMarks source = .ok ds ∧ gameWarnings ds ≠ []) ∧
      (validate bell defaultMarks source').map gameWarnings =
        (validate bell defaultMarks source).map fun ds =>
          (gameWarnings ds).map (placedIn source') := by
  intro bell source source'
  have hcagg : Heads (ofString "cagg") := ⟨rfl, _, _, rfl, rfl, rfl⟩
  have hblanks : Heads (ofString " CagG  ") := ⟨rfl, _, _, rfl, rfl, rfl⟩
  have hregamed : Regamed SameGame defaultMarks source source' :=
    hcagg.regamed hblanks ⟨by decide, by decide⟩
  have hknown : bell.KnowsGame (ofString "cagg") := by decide
  have hlint : validate bell defaultMarks source = .ok _ := validate_eq_ok rfl
  have hwarns : gameWarnings _ ≠ [] := fun h => by
    rw [gameWarnings_validate hlint] at h
    cases h
  exact ⟨games_resolved.1, hregamed, hknown, ⟨_, hlint, hwarns⟩,
    (games_resolved.2 _ bell games_resolved.1 rfl).2.2.2 _ _ _ _ hregamed rfl hknown⟩

/-- **Two ways in which titles of one game are told apart.** A title without characters is taken for
none, although a blank one may be an alias. And of aliases in the same folded letters the last one
is in force, so that the canonical name of an earlier one may be no longer known. -/
theorem games_told_apart :
    (¬ ∀ (aliases : List (Text × Text)) (catalog : Catalog) (marks : List Text)
      (source source' g : Text), AliasesAgree aliases →
      catalog.aliases = Catalog.foldAliases aliases →
      Regamed (fun g h => gameKey g = gameKey h) marks source source' →
      (collectFacts marks source).game = some g → catalog.KnowsGame g →
      (validate catalog marks source').map gameWarnings =
        (validate catalog marks source).map fun ds => (gameWarnings ds).map (placedIn source')) ∧
    ¬ ∀ (aliases : List (Text × Text)) (catalog : Catalog) (marks : List Text)
      (source source' g : Text), AliasesAgree aliases →
      catalog.aliases = Catalog.foldAliases aliases →
      Regamed SameGame marks source source' →
      (collectFacts marks source).game = some g → g ∈ aliases.map Prod.snd →
      (validate catalog marks source').map gameWarnings =
        (validate catalog marks source).map fun ds => (gameWarnings ds).map (placedIn source') := by
  constructor
  · intro hall
    have hblank : Heads (ofString " ") := ⟨rfl, _, _, rfl, rfl, rfl⟩
    have hempty : Heads [] := ⟨rfl, _, _, rfl, rfl, rfl⟩
    have hsame := hall [([], ofString "Foo")] (bellFor [ofString "Bar"] [([], ofString "Foo")])
      defaultMarks (bellScriptFor (ofString " ")) (bellScriptFor []) (ofString " ")
      ⟨by decide, by decide, by decide⟩ rfl (hblank.regamed hempty (by decide)) rfl (by decide)
    exact not_same_warnings (validate_eq_ok rfl) (validate_eq_ok rfl) (by decide) hsame
  · intro hall
    have hFoo : Heads (ofString "Foo") := ⟨rfl, _, _, rfl, rfl, rfl⟩
    have hfoo : Heads (ofString "foo") := ⟨rfl, _, _, rfl, rfl, rfl⟩
    have hsame := hall [(ofString "a", ofString "Foo"), (ofString "A", ofString "Bar")]
      (bellFor [ofString "Foo"] [(ofString "a", ofString "Foo"), (ofString "A", ofString "Bar")])
      defaultMarks (bellScriptFor (ofString "Foo")) (bellScriptFor (ofString "foo"))
      (ofString "Foo") ⟨by decide, by decide, by decide⟩ rfl
      (hFoo.regamed hfoo ⟨by decide, by decide⟩) rfl (by decide)
    exact not_same_warnings (validate_eq_ok rfl) (validate_eq_ok rfl) (by decide) hsame

end Lint

end Dialogue
