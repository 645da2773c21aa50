import Dialogue.Catalog.Standard
import Dialogue.Proofs.Catalog.Release
import Dialogue.Proofs.Lint.ByLine
import Dialogue.Proofs.Lint.Headers

/-!
# The release that a script targets

A script targets the release that its last header names. For each line with a known command this
release is compared with the one that introduced the command. The comparison is all that can refuse
a script: it does when one of the two tags has too many digits. Else it warns when the number of the
first release is below that of the second.

* `targets`, `target?`, `collectFacts_version`: the releases that the headers name, the last of
  which counts;
* `compared`, `refusal?_validate`: the tags that are compared in a script, and that the first
  overlong one of them is what the linter refuses (`exists_validate_iff`);
* **`validate_refused_iff`**: when the linter refuses a script, and for what;
* `exists_tooNew_iff`: when a line is warned of for its release;
* **`warns_of_later_release`**: where the groups of the tags line up, the warning follows the order
  of releases.
-/

namespace Dialogue.Lint

open Text Script

variable {catalog : Catalog} {marks : List Text} {facts : Facts} {raw source tag : Text}
  {c : Contract}

/-! ## Headers -/

/-- The release that a token of a header names. -/
def versionOf? (token : Text) : Option Text :=
  (splitNamed token).bind fun (name, value) =>
    if name = ofString "version" then some (stripQuotes value) else none

/-- The releases that a line names, if it is a header. -/
def headerVersions (marks : List Text) (raw : Text) : List Text :=
  match commandLine? marks raw with
  | none => []
  | some (command, content) =>
    if lower command = ofString "meta" then (splitParams content).filterMap versionOf? else []

/-- The releases that the headers of a script name, in order. -/
def targets (marks : List Text) (source : Text) : List Text :=
  (splitLines source).flatMap (headerVersions marks)

/-- The release that a script targets: the last one that is named. -/
def target? (marks : List Text) (source : Text) : Option Text := (targets marks source).getLast?

/-- **A script targets the release that its last header names.** -/
theorem collectFacts_version (marks : List Text) (source : Text) :
    (collectFacts marks source).version = target? marks source :=
  Facts.follows_version.collectFacts_eq marks source

/-! ## Refusals -/

/-- What is refused of tags that are read one after the other: the first one with too many digits.
-/
def firstRefusal (tags : List Text) : Option TooManyDigits :=
  (tags.find? fun tag => OverlongTag tag).map fun tag => { digits := (versionDigits tag).length }

theorem firstRefusal_append (s t : List Text) :
    firstRefusal (s ++ t) = (firstRefusal s).or (firstRefusal t) := by
  rw [firstRefusal, List.find?_append, Option.map_or]
  rfl

theorem firstRefusal_of_overlong (h : OverlongTag tag) (tags : List Text) :
    firstRefusal (tag :: tags) = some { digits := (versionDigits tag).length } := by
  rw [firstRefusal, List.find?_cons, decide_eq_true h]
  rfl

theorem exists_firstRefusal_iff {tags : List Text} :
    (∃ e, firstRefusal tags = some e) ↔ ∃ tag ∈ tags, OverlongTag tag := by
  simp [← Option.isSome_iff_exists, firstRefusal]

/-- What is refused for the first overlong tag only is not refused when no tag is overlong. -/
theorem exists_ok_iff_of_refusal {α : Type} {x : Except TooManyDigits α} {tags : List Text}
    (h : refusal? x = firstRefusal tags) : (∃ a, x = .ok a) ↔ ∀ tag ∈ tags, ¬ OverlongTag tag := by
  constructor
  · rintro ⟨a, rfl⟩ tag htag hlong
    obtain ⟨e, he⟩ := exists_firstRefusal_iff.mpr ⟨tag, htag, hlong⟩
    rw [he] at h
    cases h
  · intro hall
    cases x with
    | ok a => exact ⟨a, rfl⟩
    | error e =>
      obtain ⟨tag, htag, hlong⟩ := exists_firstRefusal_iff.mp ⟨e, h.symm⟩
      exact absurd hlong (hall tag htag)

theorem refusal?_versionNumber (tag : Text) :
    refusal? (versionNumber tag) = firstRefusal [tag] := by
  by_cases h : OverlongTag tag
  · have hrefused := versionNumber_eq_error_iff.mpr ⟨h, rfl⟩
    rw [refusal?_eq_some_iff.mpr hrefused]
    simp [firstRefusal, h]
  · rw [versionNumber_of_not_overlong h]
    simp [firstRefusal, h, refusal?]

theorem refusal?_checkVersion (facts : Facts) (c : Contract) :
    refusal? (checkVersion facts c) = firstRefusal (facts.version.toList ++ [c.since]) := by
  have htarget : refusal? (versionNumber (facts.version.getD [])) =
      firstRefusal facts.version.toList := by
    cases facts.version with
    | none => rfl
    | some tag => exact refusal?_versionNumber tag
  rw [firstRefusal_append, ← htarget, ← refusal?_versionNumber]
  refine refusal?_bind fun target => ?_
  rw [← Option.or_none (o := refusal? (versionNumber c.since))]
  refine refusal?_bind fun since => ?_
  split
  · rfl
  · rfl

/-- The tags that are compared for a line: none unless its command is known. -/
def comparedOn (catalog : Catalog) (marks : List Text) (target : Option Text) (raw : Text) :
    List Text :=
  match (commandLine? marks raw).bind fun parts => catalog.find? parts.1 with
  | none => []
  | some c => target.toList ++ [c.since]

theorem comparedOn_of_known {command content : Text}
    (hline : commandLine? marks raw = some (command, content))
    (hfind : catalog.find? command = some c) (target : Option Text) :
    comparedOn catalog marks target raw = target.toList ++ [c.since] := by
  simp only [comparedOn, hline, Option.bind_some, hfind]

theorem mem_comparedOn_iff {target : Option Text} : tag ∈ comparedOn catalog marks target raw ↔
    ∃ command content c, commandLine? marks raw = some (command, content) ∧
      catalog.find? command = some c ∧ (target = some tag ∨ tag = c.since) := by
  constructor
  · intro h
    unfold comparedOn at h
    split at h
    · cases h
    · rename_i c hknown
      obtain ⟨⟨command, content⟩, hline, hfind⟩ := Option.bind_eq_some_iff.mp hknown
      refine ⟨command, content, c, hline, hfind, ?_⟩
      simpa using h
  · rintro ⟨command, content, c, hline, hfind, htag⟩
    rw [comparedOn_of_known hline hfind]
    simpa using htag

theorem refusal?_checkLine (catalog : Catalog) (marks : List Text) (facts : Facts) (raw : Text) :
    refusal? (checkLine catalog marks facts raw) =
      firstRefusal (comparedOn catalog marks facts.version raw) := by
  unfold comparedOn
  cases hline : commandLine? marks raw with
  | none =>
    obtain ⟨problems, hcheck⟩ : ∃ problems, checkLine catalog marks facts raw = .ok problems :=
      exists_checkLine_of_no_command hline
    rw [hcheck]
    rfl
  | some parts =>
    obtain ⟨command, content⟩ := parts
    simp only [Option.bind_some]
    cases hfind : catalog.find? command with
    | none =>
      rw [checkLine_of_unknown hline hfind]
      rfl
    | some c => rw [checkLine_of_known hline hfind, refusal?_map, refusal?_checkVersion]

theorem refusal?_checkLines (catalog : Catalog) (marks : List Text) (facts : Facts) (first : Nat)
    (lines : List Text) : refusal? (checkLines catalog marks facts first lines) =
      firstRefusal (lines.flatMap (comparedOn catalog marks facts.version)) := by
  induction lines generalizing first with
  | nil => rfl
  | cons raw rest ih =>
    rw [List.flatMap_cons, firstRefusal_append, ← refusal?_checkLine, ← ih (first + 1)]
    refine refusal?_bind fun problems => ?_
    rw [← Option.or_none (o := refusal? (checkLines catalog marks facts (first + 1) rest))]
    exact refusal?_bind fun later => rfl

/-- The tags that are compared in a script, in order. -/
def compared (catalog : Catalog) (marks : List Text) (source : Text) : List Text :=
  (splitLines source).flatMap (comparedOn catalog marks (target? marks source))

/-- **The linter refuses the first overlong tag that it compares**, and nothing else. -/
theorem refusal?_validate (catalog : Catalog) (marks : List Text) (source : Text) :
    refusal? (validate catalog marks source) = firstRefusal (compared catalog marks source) := by
  rw [compared, ← collectFacts_version, ← refusal?_checkLines catalog marks _ 0,
    ← Option.or_none (o := refusal? (checkLines _ _ _ _ _))]
  exact refusal?_bind fun found => rfl

/-- A script is not refused exactly when none of the tags that are compared in it is overlong. -/
theorem exists_validate_iff (catalog : Catalog) (marks : List Text) (source : Text) :
    (∃ ds, validate catalog marks source = .ok ds) ↔
      ∀ tag ∈ compared catalog marks source, ¬ OverlongTag tag :=
  exists_ok_iff_of_refusal (refusal?_validate catalog marks source)

/-- **When the linter refuses a script**, with any catalog, one without commands standing for the
standard catalog: exactly when the command of some line is known and the tag of the release that the
script targets, or of the one that introduced the command, has too many digits. It is refused for
the number of digits of the first such tag. No other number in the script plays a part in it, and
each conflict is with a variable that is known. -/
theorem validate_refused_iff (given : Catalog) (marks : List Text) (source : Text) :
    ((∃ e, validate (given.orElse .standard) marks source = .error e) ↔
      ∃ raw ∈ splitLines source, ∃ command content c,
        commandLine? marks raw = some (command, content) ∧
        (given.orElse .standard).find? command = some c ∧
        ((∃ tag, target? marks source = some tag ∧ OverlongTag tag) ∨ OverlongTag c.since)) ∧
    (∀ e, validate (given.orElse .standard) marks source = .error e ↔
      ∃ tag, (compared (given.orElse .standard) marks source).find? (OverlongTag ·) = some tag ∧
        e = { digits := (versionDigits tag).length }) ∧
    ∀ x ∈ (collectFacts marks source).conflicts,
      ∃ d, (collectFacts marks source).vars.get? x.name = some d := by
  have herror : ∀ e, validate (given.orElse .standard) marks source = .error e ↔
      firstRefusal (compared (given.orElse .standard) marks source) = some e := by
    intro e
    rw [← refusal?_validate, refusal?_eq_some_iff]
  refine ⟨?_, fun e => ?_, fun x hx => ?_⟩
  · simp only [herror, exists_firstRefusal_iff, compared, List.mem_flatMap, mem_comparedOn_iff]
    constructor
    · rintro ⟨tag, ⟨raw, hraw, command, content, c, hline, hfind, htarget | rfl⟩, hlong⟩
      · exact ⟨raw, hraw, command, content, c, hline, hfind, .inl ⟨tag, htarget, hlong⟩⟩
      · exact ⟨raw, hraw, command, content, c, hline, hfind, .inr hlong⟩
    · rintro ⟨raw, hraw, command, content, c, hline, hfind, ⟨tag, htarget, hlong⟩ | hlong⟩
      · exact ⟨tag, ⟨raw, hraw, command, content, c, hline, hfind, .inl htarget⟩, hlong⟩
      · exact ⟨c.since, ⟨raw, hraw, command, content, c, hline, hfind, .inr rfl⟩, hlong⟩
  · rw [herror, firstRefusal, Option.map_eq_some_iff]
    exact exists_congr fun tag => and_congr_right fun _ => eq_comm
  · obtain ⟨type, d, hd, -⟩ := collectFacts_founded marks source x hx
    exact ⟨d, hd⟩

/-- The token that names a release. -/
def versionToken (tag : Text) : Text := ofString "version" ++ '=' :: tag

/-- A script of one header that names a release. -/
def heading (tag : Text) : Text := commandLine (ofString "Meta") (versionToken tag)

section Heading

variable (h : ∀ c ∈ tag, isAsciiDigit c = true)

include h

theorem isBlank_of_mem_digits {c : Char} (hc : c ∈ tag) : isBlank c = false :=
  isBlank_of_isNameChar (isNameChar_of_isAsciiDigit (h c hc))

theorem isNameChar_of_mem_versionToken {c : Char} (hc : c ∈ versionToken tag) :
    isNameChar c = true ∨ c = '=' := by
  have hversion : (ofString "version").all isNameChar = true := by decide
  rcases List.mem_append.mp hc with hc | hc
  · exact .inl (List.all_eq_true.mp hversion c hc)
  · rcases List.mem_cons.mp hc with rfl | hc
    · exact .inr rfl
    · exact .inl (isNameChar_of_isAsciiDigit (h c hc))

theorem not_mem_versionToken {c : Char} (hname : isNameChar c = false) (hne : c ≠ '=') :
    c ∉ versionToken tag := by
  intro hc
  rcases isNameChar_of_mem_versionToken h hc with hc | rfl
  · rw [hname] at hc
    cases hc
  · exact hne rfl

theorem splitParams_versionToken : splitParams (versionToken tag) = [versionToken tag] := by
  have htrim : Trimmed (versionToken tag) := by
    refine trimmed_of_forall fun c hc => ?_
    rcases isNameChar_of_mem_versionToken h hc with hc | rfl
    · exact isBlank_of_isNameChar hc
    · decide
  exact splitParams_of_not_mem htrim (not_mem_versionToken h (by decide) (by decide))
    (by simp [versionToken])

theorem versionOf?_versionToken : versionOf? (versionToken tag) = some tag := by
  have htrim : trim tag = tag := (trimmed_of_forall fun _ => isBlank_of_mem_digits h).trim_eq
  have hstrip : stripQuotes tag = tag := by
    cases tag with
    | nil => rfl
    | cons c r =>
      have hc : c ≠ '"' := by
        rintro rfl
        exact absurd (h _ List.mem_cons_self) (by decide)
      rw [stripQuotes, quotedBody?, if_neg fun hquotes => hc hquotes.1]
  rw [versionOf?, versionToken, splitNamed_append rfl rfl, htrim, Option.bind_some]
  exact (if_pos rfl).trans (congrArg some hstrip)

/-- A heading is one line and a header. -/
theorem heading_line : splitLines (heading tag) = [heading tag] ∧
    commandLine? defaultMarks (heading tag) = some (ofString "Meta", versionToken tag) := by
  have hfeed : '\n' ∉ versionToken tag := not_mem_versionToken h (by decide) (by decide)
  exact ⟨splitLines_of_not_mem (feed_not_mem_commandLine rfl hfeed),
    commandLine?_commandLine rfl hfeed⟩

/-- A script that ends in a heading targets its release. -/
theorem target?_of_heading {source : Text} {before : List Text}
    (hlines : splitLines source = before ++ [heading tag]) :
    target? defaultMarks source = some tag := by
  have hmeta : lower (ofString "Meta") = ofString "meta" := rfl
  have hversions : headerVersions defaultMarks (heading tag) = [tag] := by
    simp only [headerVersions, (heading_line h).2, if_pos hmeta, splitParams_versionToken h,
      List.filterMap_cons, versionOf?_versionToken h, List.filterMap_nil]
  rw [target?, targets, hlines, List.flatMap_append, List.flatMap_singleton, hversions,
    List.getLast?_concat]

/-- A heading is one line, a header, and names its release. -/
theorem heading_reads : splitLines (heading tag) = [heading tag] ∧
    commandLine? defaultMarks (heading tag) = some (ofString "Meta", versionToken tag) ∧
    target? defaultMarks (heading tag) = some tag := by
  obtain ⟨hlines, hline⟩ := heading_line h
  exact ⟨hlines, hline, target?_of_heading h (hlines.trans (List.nil_append _).symm)⟩

end Heading

/-- A tag with one digit too many. -/
def nines : Text := List.replicate (maxDigits + 1) '9'

theorem nines_digits : ∀ c ∈ nines, isAsciiDigit c = true := fun _ hc =>
  List.eq_of_mem_replicate hc ▸ rfl

theorem versionDigits_nines : versionDigits nines = nines := by
  have hblank : ∀ c ∈ nines, isBlank c = false := fun _ => isBlank_of_mem_digits nines_digits
  have hdots : nines.filter (· ≠ '.') = nines :=
    List.filter_eq_self.mpr fun c hc => List.eq_of_mem_replicate hc ▸ rfl
  have hdigits : nines.takeWhile isDigit = nines :=
    List.takeWhile_eq_self_iff.mpr fun c hc => isDigit_of_isAsciiDigit (nines_digits c hc)
  rw [versionDigits, (trimmed_of_forall hblank).trim_eq, hdots, hdigits]

theorem overlongTag_nines : OverlongTag nines := by
  rw [OverlongTag, versionDigits_nines, nines, List.length_replicate]
  exact Nat.lt_succ_self _

theorem validate_refused_iff_nines :
    validate (Catalog.standard.orElse .standard) defaultMarks (heading nines) =
      .error { digits := maxDigits + 1 } := by
  obtain ⟨hlines, hline, htarget⟩ := heading_reads nines_digits
  obtain ⟨c, hfind⟩ : ∃ c, (Catalog.standard.orElse .standard).find? (ofString "Meta") = some c :=
    ⟨_, rfl⟩
  have hcompared : compared (Catalog.standard.orElse .standard) defaultMarks (heading nines) =
      [nines, c.since] := by
    rw [compared, hlines, List.flatMap_singleton, comparedOn_of_known hline hfind, htarget]
    rfl
  refine ((validate_refused_iff .standard defaultMarks (heading nines)).2.1 _).mpr ⟨nines, ?_, ?_⟩
  · rw [hcompared]
    exact List.find?_cons_of_pos (decide_eq_true overlongTag_nines)
  · rw [versionDigits_nines, nines, List.length_replicate]

/-- **A catalog without commands is not looked up in**: a script is refused for the release that it
targets on the line of a command that the given catalog does not have. -/
theorem validate_refused_borrowed : ¬ ∀ (given : Catalog) (marks : List Text) (source : Text),
    (∃ e, validate (given.orElse .standard) marks source = .error e) ↔
      ∃ raw ∈ splitLines source, ∃ command content c,
        commandLine? marks raw = some (command, content) ∧ given.find? command = some c ∧
        ((∃ tag, target? marks source = some tag ∧ OverlongTag tag) ∨ OverlongTag c.since) := by
  intro h
  obtain ⟨hlines, hline, htarget⟩ := heading_reads nines_digits
  let bare : Catalog := { table := [], aliases := [] }
  obtain ⟨c, hfind⟩ : ∃ c, (bare.orElse .standard).find? (ofString "Meta") = some c := ⟨_, rfl⟩
  have hmem : nines ∈ compared (bare.orElse .standard) defaultMarks (heading nines) := by
    rw [compared, hlines, List.flatMap_singleton, mem_comparedOn_iff]
    exact ⟨_, _, c, hline, hfind, .inl htarget⟩
  obtain ⟨e, he⟩ := exists_firstRefusal_iff.mpr ⟨nines, hmem, overlongTag_nines⟩
  rw [← refusal?_validate, refusal?_eq_some_iff] at he
  obtain ⟨raw, -, command, content, c', -, hnone, -⟩ := (h bare defaultMarks _).mp ⟨e, he⟩
  cases hnone

/-! ## Warnings -/

theorem eq_tooNew_of_code {x : Problem} (h : x.code = ofString "COMPAT_VERSION") :
    ∃ command since target, x = .tooNew command since target := by
  cases x with
  | tooNew command since target => exact ⟨command, since, target, rfl⟩
  | _ => exact absurd h (by simp [Problem.code, ofString])

/-- **A line is warned of for its release** when the number of the release that the script targets
is below that of the release that introduced the command. -/
theorem exists_tooNew_iff {command content : Text} {t s : Nat}
    (hline : commandLine? marks raw = some (command, content))
    (hfind : catalog.find? command = some c)
    (ht : versionNumber (facts.version.getD []) = .ok (some t))
    (hs : versionNumber c.since = .ok (some s)) :
    (∃ x ∈ lineProblems catalog marks facts raw, x.code = ofString "COMPAT_VERSION") ↔ t < s := by
  have hversion : checkVersion facts c =
      .ok (if t < s then [.tooNew c.name c.since (facts.version.getD [])] else []) := by
    simp only [checkVersion, ht, hs]
    rfl
  have hproblems : lineProblems catalog marks facts raw =
      (if t < s then [.tooNew c.name c.since (facts.version.getD [])] else []) ++
        checkGame catalog facts c ++ checkParams facts c (splitParams content) := by
    rw [lineProblems, checkLine_of_known hline hfind, hversion]
    rfl
  rw [hproblems]
  constructor
  · rintro ⟨x, hx, hcode⟩
    obtain ⟨name, since, target, rfl⟩ := eq_tooNew_of_code hcode
    by_contra hlt
    rw [if_neg hlt, List.nil_append] at hx
    rcases List.mem_append.mp hx with hx | hx
    · obtain ⟨game, hgame⟩ := eq_otherGame_of_mem_checkGame hx
      cases hgame
    · cases checkParams_ofParams facts c _ _ hx
  · intro hlt
    rw [if_pos hlt]
    exact ⟨_, List.mem_append_left _ (List.mem_append_left _ List.mem_cons_self), rfl⟩

section Report

variable {ds : List Diagnostic} {i : Nat} {command content : Text} {r s : Release}

/-- A line of a script is warned of for its release when the number of the release that the script
targets is below that of the release that introduced the command. -/
theorem exists_onLine_tooNew_iff (hlint : validate catalog marks source = .ok ds)
    (hraw : (splitLines source)[i]? = some raw)
    (hline : commandLine? marks raw = some (command, content))
    (hfind : catalog.find? command = some c) (htarget : target? marks source = some r.tag)
    (hsince : c.since = s.tag) :
    (∃ d ∈ onLine ds i, d.code = ofString "COMPAT_VERSION") ↔ r.number < s.number := by
  rw [exists_onLine_code_iff hlint hraw (by simp [ofString])]
  refine exists_tooNew_iff hline hfind ?_ ?_
  · rw [collectFacts_version, htarget, Option.getD_some, r.versionNumber_tag]
  · rw [hsince, s.versionNumber_tag]

end Report

/-- **The warning follows the order of releases where their groups line up.** Tags of releases have
numbers. These have the order of the releases for all tags whose groups are as wide as those of two
given ones exactly when the two have equally many groups, and each but the first has equally many
digits in both. A line with a known command is warned of when the number of the release that the
script targets is below that of the one that introduced the command; where their groups line up,
when the command was introduced in a later release. -/
theorem warns_of_later_release :
    (∀ r : Release, versionNumber r.tag = .ok (some r.number)) ∧
    (∀ r s : Release, r.Alike s ↔ r.Ordered s) ∧
    ∀ (catalog : Catalog) (marks : List Text) (source : Text) (ds : List Diagnostic) (i : Nat)
      (raw command content : Text) (c : Contract) (r s : Release),
      validate catalog marks source = .ok ds → (splitLines source)[i]? = some raw →
      commandLine? marks raw = some (command, content) → catalog.find? command = some c →
      target? marks source = some r.tag → c.since = s.tag →
      ((∃ d ∈ onLine ds i, d.code = ofString "COMPAT_VERSION") ↔ r.number < s.number) ∧
      (r.Alike s →
        ((∃ d ∈ onLine ds i, d.code = ofString "COMPAT_VERSION") ↔
          Precedes r.values s.values)) := by
  refine ⟨Release.versionNumber_tag, fun r s => Release.alike_iff_ordered, ?_⟩
  intro catalog marks source ds i raw command content c r s hlint hraw hline hfind htarget hsince
  have hreport := exists_onLine_tooNew_iff hlint hraw hline hfind htarget hsince
  exact ⟨hreport, fun halike => hreport.trans (Release.number_lt_iff_of_alike halike)⟩

/-- A catalog with headers, and a bell that a release introduced. -/
def bellCatalog (since : Text) : Catalog where
  table := [
    (ofString "meta", {
      name := ofString "Meta", since := []
      optional := [{ name := ofString "version", type := .string }] }),
    (ofString "ring", { name := ofString "Ring", since := since })]
  aliases := []

/-- A script for a release that rings the bell. -/
def bellScript (target : Text) : Text :=
  ofString "Meta [version=\"" ++ target ++ ofString "\"]\nRing []"

/-- Release 4.1.0. -/
def release410 : Release where
  groups := [ofString "4", ofString "1", ofString "0"]

/-- Release 4.2.0, with a letter behind. -/
def release420s : Release where
  groups := [ofString "4", ofString "2", ofString "0"]
  letters := ofString "s"

theorem warns_of_later_release_bell : ∃ ds,
    validate (bellCatalog release420s.tag) defaultMarks (bellScript release410.tag) = .ok ds ∧
    release410.Alike release420s ∧ ∃ d ∈ onLine ds 1, d.code = ofString "COMPAT_VERSION" := by
  have hlint : validate (bellCatalog release420s.tag) defaultMarks (bellScript release410.tag) =
      .ok _ := validate_eq_ok rfl
  have halike : release410.Alike release420s := by decide
  have hraw : (splitLines (bellScript release410.tag))[1]? = some (ofString "Ring []") := rfl
  have hline : commandLine? defaultMarks (ofString "Ring []") = some (ofString "Ring", []) := rfl
  have htarget : target? defaultMarks (bellScript release410.tag) = some release410.tag := rfl
  obtain ⟨c, hfind, hsince⟩ : ∃ c, (bellCatalog release420s.tag).find? (ofString "Ring") = some c ∧
      c.since = release420s.tag := ⟨_, rfl, rfl⟩
  have hwarns := warns_of_later_release.2.2 _ _ _ _ 1 _ _ _ c release410 release420s
    hlint hraw hline hfind htarget hsince
  exact ⟨_, hlint, halike, (hwarns.2 halike).mpr (by decide)⟩

/-- Release 4.10.0. -/
def release4100 : Release where
  groups := [ofString "4", ofString "10", ofString "0"]

/-- Release 5.0.0. -/
def release500 : Release where
  groups := [ofString "5", ofString "0", ofString "0"]

/-- **A wider group makes a release count as later than it is.** Release 5.0.0 comes after 4.10.0
and has the smaller number, so that a script for it is warned of a command of the earlier release.
-/
theorem warns_of_earlier_release :
    (¬ ∀ (r s : Release) (m n : Nat), versionNumber r.tag = .ok (some m) →
      versionNumber s.tag = .ok (some n) → (m < n ↔ Precedes r.values s.values)) ∧
    ¬ ∀ (catalog : Catalog) (marks : List Text) (source : Text) (ds : List Diagnostic) (i : Nat)
      (raw command content : Text) (c : Contract) (r s : Release),
      validate catalog marks source = .ok ds → (splitLines source)[i]? = some raw →
      commandLine? marks raw = some (command, content) → catalog.find? command = some c →
      target? marks source = some r.tag → c.since = s.tag →
      ((∃ d ∈ onLine ds i, d.code = ofString "COMPAT_VERSION") ↔
        Precedes r.values s.values) := by
  have hnumber : release500.number < release4100.number := by decide
  have hlater : ¬ Precedes release500.values release4100.values := by decide
  refine ⟨fun h => ?_, fun h => ?_⟩
  · exact hlater ((h _ _ _ _ release500.versionNumber_tag release4100.versionNumber_tag).mp hnumber)
  · have hlint : validate (bellCatalog release4100.tag) defaultMarks (bellScript release500.tag) =
        .ok _ := validate_eq_ok rfl
    have hraw : (splitLines (bellScript release500.tag))[1]? = some (ofString "Ring []") := rfl
    have hline : commandLine? defaultMarks (ofString "Ring []") = some (ofString "Ring", []) := rfl
    have htarget : target? defaultMarks (bellScript release500.tag) = some release500.tag := rfl
    obtain ⟨c, hfind, hsince⟩ : ∃ c,
        (bellCatalog release4100.tag).find? (ofString "Ring") = some c ∧
        c.since = release4100.tag := ⟨_, rfl, rfl⟩
    have hreport := exists_onLine_tooNew_iff hlint hraw hline hfind htarget hsince
    have hiff := h _ _ _ _ 1 _ _ _ c release500 release4100 hlint hraw hline hfind htarget hsince
    exact hlater (hiff.mp (hreport.mpr hnumber))

end Dialogue.Lint
