import Dialogue.Proofs.Lint.Alike
import Dialogue.Proofs.Lint.FirstReading
import Mathlib.Data.List.FinRange

/-!
# Scripts with their lines in another order

As the linter reads a script twice, a variable may be used before it is declared and the header may stand
anywhere. Where no declaration and no header contradicts another one, the order of lines does not matter
at all: what is reported of a line goes with it wherever it is put.

* `Consistent`: each variable is declared with one type, and one game and one release at most are named;
* `Consistent.get?_type_iff`, `Consistent.conflicts_eq_nil`: what is known of a consistent script is what
  its lines say, each by itself;
* `alike_of_perm`: so the same lines in another order make the same known;
* `Diagnostic.place`, `place_remarks`: what is reported of a line, wherever it stands;
* `shuffle`: the lines in the order of a permutation. **`validate_shuffled`** says what is reported then.
-/

namespace Dialogue

open Text Script

/-- Code, severity and columns of a diagnostic. -/
def Diagnostic.place (d : Diagnostic) : Text × Severity × Int × Int :=
  (d.code, d.severity, d.range.start, d.range.stop)

namespace Lint

variable {catalog : Catalog} {marks : List Text} {facts facts' : Facts} {source source' raw : Text}
  {name : Text} {type : ParamType}

/-! ## Consistent scripts -/

/-- No declaration and no header of the script contradicts another one. -/
structure Consistent (marks : List Text) (source : Text) : Prop where
  declared : ∀ i j name type type', DeclaredAt marks source i name type →
    DeclaredAt marks source j name type' → type' = type
  game : ∀ v ∈ valuesOf (ofString "game") marks source,
    ∀ w ∈ valuesOf (ofString "game") marks source, w = v
  version : ∀ v ∈ valuesOf (ofString "version") marks source,
    ∀ w ∈ valuesOf (ofString "version") marks source, w = v

theorem declaredAt_of_mem_declarationsOf {d : Declaration}
    (hd : d ∈ declarationsOf marks source name) : DeclaredAt marks source d.line name d.type := by
  obtain ⟨raw, hraw, hdecl⟩ := mem_declarationsOf_iff.mp hd
  exact ⟨raw, hraw, (declares_of_declaration? hdecl).1⟩

theorem exists_mem_declarationsOf (hraw : raw ∈ splitLines source)
    (hdecl : Declares marks raw name type) : ∃ d ∈ declarationsOf marks source name, d.type = type := by
  obtain ⟨i, hi⟩ := List.mem_iff_getElem?.mp hraw
  obtain ⟨⟨other, d⟩, hd, rfl, htype⟩ := exists_declaration? i hdecl
  have hline : d.line = i := (declares_of_declaration? hd).2
  exact ⟨d, mem_declarationsOf_iff.mpr ⟨raw, by rwa [hline], by rwa [hline]⟩, htype⟩

namespace Consistent

variable (h : Consistent marks source)
include h

/-- **A variable is known with the type that any line declares it with.** -/
theorem get?_type_iff (name : Text) (type : ParamType) :
    ((collectFacts marks source).vars.get? name).map (·.type) = some type ↔
      ∃ raw ∈ splitLines source, Declares marks raw name type := by
  rw [get?_vars, settled_type]
  constructor
  · intro hhead
    obtain ⟨d, hd, rfl⟩ := Option.map_eq_some_iff.mp hhead
    obtain ⟨raw, hraw, hdecl⟩ := declaredAt_of_mem_declarationsOf (List.mem_of_head? hd)
    exact ⟨raw, List.mem_of_getElem? hraw, hdecl⟩
  · rintro ⟨raw, hraw, hdecl⟩
    obtain ⟨d, hd, rfl⟩ := exists_mem_declarationsOf hraw hdecl
    obtain ⟨first, rest, hall⟩ := List.exists_cons_of_ne_nil (List.ne_nil_of_mem hd)
    have hfirst : first ∈ declarationsOf marks source name := hall ▸ List.mem_cons_self
    have hsame := h.declared _ _ _ _ _ (declaredAt_of_mem_declarationsOf hd)
      (declaredAt_of_mem_declarationsOf hfirst)
    rw [hall, List.head?_cons, Option.map_some, hsame]

theorem conflicts_eq_nil : (collectFacts marks source).conflicts = [] := by
  refine List.eq_nil_iff_forall_not_mem.mpr fun x hx => ?_
  obtain ⟨first, d, -, hfirst, hd, htype, -⟩ := mem_conflicts_iff.mp hx
  exact htype (h.declared _ _ _ _ _ (declaredAt_of_mem_declarationsOf (List.mem_of_head? hfirst))
    (declaredAt_of_mem_declarationsOf hd))

end Consistent

/-! ## The same lines in another order -/

section Permuted

variable (hperm : (splitLines source').Perm (splitLines source))
include hperm

theorem declaredAt_of_perm {i : Nat} (hdecl : DeclaredAt marks source' i name type) :
    ∃ j, DeclaredAt marks source j name type := by
  obtain ⟨raw, hraw, hdecl⟩ := hdecl
  obtain ⟨j, hj⟩ := List.mem_iff_getElem?.mp (hperm.mem_iff.mp (List.mem_of_getElem? hraw))
  exact ⟨j, raw, hj, hdecl⟩

theorem valuesOf_perm (field : Text) (marks : List Text) :
    (valuesOf field marks source').Perm (valuesOf field marks source) :=
  hperm.flatMap_right _

theorem Consistent.of_perm (h : Consistent marks source) : Consistent marks source' where
  declared i j name type type' hi hj := by
    obtain ⟨i', hi'⟩ := declaredAt_of_perm hperm hi
    obtain ⟨j', hj'⟩ := declaredAt_of_perm hperm hj
    exact h.declared i' j' name type type' hi' hj'
  game v hv w hw := h.game v ((valuesOf_perm hperm _ marks).mem_iff.mp hv) w
    ((valuesOf_perm hperm _ marks).mem_iff.mp hw)
  version v hv w hw := h.version v ((valuesOf_perm hperm _ marks).mem_iff.mp hv) w
    ((valuesOf_perm hperm _ marks).mem_iff.mp hw)

omit hperm in
/-- Where all values are the same, the last one does not depend on their order. -/
theorem getLast?_of_perm {vs ws : List Text} (hvalues : ws.Perm vs)
    (hsame : ∀ v ∈ vs, ∀ w ∈ vs, w = v) : ws.getLast? = vs.getLast? := by
  cases hw : ws.getLast? with
  | none =>
    rw [List.getLast?_eq_none_iff.mp hw] at hvalues
    rw [hvalues.symm.eq_nil]
    rfl
  | some w =>
    cases hv : vs.getLast? with
    | none =>
      rw [List.getLast?_eq_none_iff.mp hv] at hvalues
      rw [hvalues.eq_nil] at hw
      cases hw
    | some v =>
      exact congrArg some (hsame v (List.mem_of_getLast? hv) w
        (hvalues.mem_iff.mp (List.mem_of_getLast? hw)))

/-- **The same lines make the same known**, up to the lines of declarations. -/
theorem alike_of_perm (h : Consistent marks source) : Facts.Alike (fun _ => 0) (fun _ => 0)
    (collectFacts marks source) (collectFacts marks source') where
  vars name := by
    have htype : ((collectFacts marks source').vars.get? name).map (·.type) =
        ((collectFacts marks source).vars.get? name).map (·.type) := by
      refine Option.ext fun type => ?_
      rw [Consistent.get?_type_iff (h.of_perm hperm), h.get?_type_iff]
      exact exists_congr fun raw => and_congr_left' hperm.mem_iff
    have hpair := congrArg (Option.map fun type => (type, 0)) htype
    rwa [Option.map_map, Option.map_map] at hpair
  game := by
    rw [Facts.follows_game.collectFacts_eq, Facts.follows_game.collectFacts_eq]
    exact getLast?_of_perm (valuesOf_perm hperm _ marks) h.game
  version := by
    rw [Facts.follows_version.collectFacts_eq, Facts.follows_version.collectFacts_eq]
    exact getLast?_of_perm (valuesOf_perm hperm _ marks) h.version

/-- The linter refuses both or neither. -/
theorem exists_validate_of_perm (h : Consistent marks source) (catalog : Catalog) :
    (∃ ds, validate catalog marks source' = .ok ds) ↔
      ∃ ds, validate catalog marks source = .ok ds := by
  have htarget : target? marks source' = target? marks source := by
    rw [← collectFacts_version, ← collectFacts_version]
    exact (alike_of_perm hperm h).version
  rw [exists_validate_iff, exists_validate_iff, compared, compared, htarget]
  exact forall_congr' fun tag => imp_congr_left (hperm.flatMap_right _).mem_iff

end Permuted

/-! ## What is reported of a line -/

theorem lineProblems_alike {g g' : Nat → Nat} (h : facts.Alike g g' facts') (catalog : Catalog)
    (marks : List Text) (raw : Text) :
    (lineProblems catalog marks facts' raw).map (Problem.relined g') =
      (lineProblems catalog marks facts raw).map (Problem.relined g) := by
  have halike := checkLine_alike h catalog marks raw
  unfold lineProblems
  cases hnew : checkLine catalog marks facts' raw with
  | error e =>
    cases hold : checkLine catalog marks facts raw with
    | error e' => rfl
    | ok problems =>
      rw [hnew, hold] at halike
      cases halike
  | ok problems' =>
    cases hold : checkLine catalog marks facts raw with
    | error e =>
      rw [hnew, hold] at halike
      cases halike
    | ok problems =>
      rw [hnew, hold] at halike
      exact Except.ok.inj halike

/-- **What is reported of the problems of a line** is the same wherever the line stands. -/
theorem place_remarks {g g' : Nat → Nat} (h : facts.Alike g g' facts') (catalog : Catalog)
    (marks : List Text) (i j : Nat) (raw : Text) :
    (remarks catalog marks facts' j raw).map Diagnostic.place =
      (remarks catalog marks facts i raw).map Diagnostic.place := by
  have hplace : ∀ (g : Nat → Nat) (i : Nat), Diagnostic.place ∘ (fun x : Problem =>
      x.diagnostic (lineRange i raw)) =
        (fun x => (x.diagnostic (lineRange 0 raw)).place) ∘ Problem.relined g := by
    intro g i
    funext x
    simp [Diagnostic.place, Problem.diagnostic, lineRange]
  unfold remarks
  rw [List.map_map, List.map_map, hplace g' j, hplace g i, ← List.map_map, ← List.map_map,
    lineProblems_alike h]

/-- A line of a script without conflicts has none of its own. -/
theorem redeclarations_eq_nil {i : Nat} (hconflicts : (collectFacts marks source).conflicts = [])
    (hraw : (splitLines source)[i]? = some raw) :
    redeclarations marks (collectFacts marks source) i raw = [] := by
  refine List.eq_nil_iff_forall_not_mem.mpr fun d hd => ?_
  have hmem : d ∈ conflictDiagnostics (collectFacts marks source) := by
    rw [conflictDiagnostics_eq_gather]
    exact mem_gather_iff.mpr ⟨i, raw, hraw, by rwa [Nat.zero_add]⟩
  rw [conflictDiagnostics, hconflicts] at hmem
  cases hmem

/-- Of a consistent script the problems of its lines are reported, and nothing else. -/
theorem Consistent.onLine_validate (h : Consistent marks source) {ds : List Diagnostic} {i : Nat}
    (hlint : validate catalog marks source = .ok ds) (hraw : (splitLines source)[i]? = some raw) :
    (onLine ds i).Perm (remarks catalog marks (collectFacts marks source) i raw) := by
  have hperm := (Lint.onLine_validate hlint hraw).2
  rwa [redeclarations_eq_nil h.conflicts_eq_nil hraw, List.append_nil] at hperm

/-! ## Permuted lines -/

/-- The lines in the order of a permutation: line `i` becomes line `σ i`. -/
def shuffle (lines : List Text) (σ : Equiv.Perm (Fin lines.length)) : List Text :=
  List.ofFn fun i => lines[σ.symm i]

theorem shuffle_perm (lines : List Text) (σ : Equiv.Perm (Fin lines.length)) :
    (shuffle lines σ).Perm lines := by
  have hperm := Equiv.Perm.ofFn_comp_perm σ.symm fun i : Fin lines.length => lines[i]
  rwa [show List.ofFn (fun i : Fin lines.length => lines[i]) = lines from List.ofFn_getElem]
    at hperm

theorem getElem?_shuffle (lines : List Text) (σ : Equiv.Perm (Fin lines.length))
    (i : Fin lines.length) : (shuffle lines σ)[(σ i).val]? = some lines[i] := by
  unfold shuffle
  rw [List.getElem?_ofFn, dif_pos (σ i).isLt]
  simp only [Fin.eta, Equiv.symm_apply_apply]

/-- **The order of declarations and uses does not matter.** Take a script in which each variable is
declared with one type and at most one game and one release are named, its lines not ending in
carriage returns, and put its lines in any other order. The text of these lines has them as its lines.
The linter returns for one of the scripts iff it does for the other, and what it reports of a line,
with code, severity and columns, it reports of the same line at its new number. -/
theorem validate_shuffled (h : Consistent marks source)
    (hreturn : ∀ raw ∈ splitLines source, raw.getLast? ≠ some '\r')
    (σ : Equiv.Perm (Fin (splitLines source).length)) :
    splitLines (joinWith ['\n'] (shuffle (splitLines source) σ)) = shuffle (splitLines source) σ ∧
    ∀ source', splitLines source' = shuffle (splitLines source) σ → ∀ catalog : Catalog,
      ((∃ ds, validate catalog marks source' = .ok ds) ↔
        ∃ ds, validate catalog marks source = .ok ds) ∧
      ∀ ds ds', validate catalog marks source = .ok ds → validate catalog marks source' = .ok ds' →
        ∀ i, ((onLine ds' (σ i)).map Diagnostic.place).Perm ((onLine ds i).map Diagnostic.place) := by
  have hmem := fun raw => (shuffle_perm (splitLines source) σ).mem_iff (a := raw)
  refine ⟨splitLines_joinWith ?_ ?_ ?_, fun source' hlines catalog => ?_⟩
  · intro hnil
    have hperm := shuffle_perm (splitLines source) σ
    rw [hnil] at hperm
    exact splitLines_ne_nil source hperm.symm.eq_nil
  · exact fun raw hraw => not_mem_of_mem_splitLines ((hmem raw).mp hraw)
  · exact fun raw hraw => hreturn raw ((hmem raw).mp hraw)
  · have hperm : (splitLines source').Perm (splitLines source) := hlines ▸ shuffle_perm _ σ
    refine ⟨exists_validate_of_perm hperm h catalog, fun ds ds' hlint hlint' i => ?_⟩
    have hraw : (splitLines source)[i.val]? = some (splitLines source)[i] :=
      List.getElem?_eq_getElem i.isLt
    have hraw' : (splitLines source')[(σ i).val]? = some (splitLines source)[i] := by
      rw [hlines, getElem?_shuffle]
    have hplace := place_remarks (alike_of_perm hperm h) catalog marks i (σ i) (splitLines source)[i]
    have hafter := ((h.of_perm hperm).onLine_validate hlint' hraw').map Diagnostic.place
    have hbefore := (h.onLine_validate hlint hraw).map Diagnostic.place
    rw [hplace] at hafter
    exact hafter.trans hbefore.symm

/-- A script that uses a variable before its declarations, and names its release at the end. -/
def belated : Text :=
  joinWith ['\n'] [ofString "Act_Speak [$who]", ofString "\tGive_Achievement [$\"\x7bwhom\x7d\"]",
    ofString "Set_StringVar [\"who\", \"Ann\"]", ofString "set_stringvar [\"who\", \"Ben\"]",
    ofString "Meta [version=\"4.0.0\"]"]

theorem consistent_belated : Consistent defaultMarks belated where
  declared i j name type type' hi hj := by
    have hall : ∀ e ∈ declarations defaultMarks 0 (splitLines belated),
        ∀ e' ∈ declarations defaultMarks 0 (splitLines belated),
          e'.1 = e.1 → e'.2.type = e.2.type := by decide +kernel
    obtain ⟨e, he, rfl, rfl, -⟩ := declaredAt_iff.mp hi
    obtain ⟨e', he', hname, rfl, -⟩ := declaredAt_iff.mp hj
    exact hall e he e' he' hname
  game := by decide +kernel
  version := by decide +kernel

/-- From the last line to the first, the release is named before and the variable declared before, and
the achievement is still too new and names a variable that there is not. -/
theorem validate_shuffled_belated : Consistent defaultMarks belated ∧
    (∀ raw ∈ splitLines belated, raw.getLast? ≠ some '\r') ∧ ∃ ds ds',
      validate .standard defaultMarks belated = .ok ds ∧
      validate .standard defaultMarks
        (joinWith ['\n'] (shuffle (splitLines belated) Fin.revPerm)) = .ok ds' ∧
      ((onLine ds' 3).map Diagnostic.place).Perm
        [(ofString "COMPAT_VERSION", .warning, 1, 29),
          (ofString "VARIABLE_UNKNOWN_PLACEHOLDER", .warning, 1, 29)] := by
  have hreturn : ∀ raw ∈ splitLines belated, raw.getLast? ≠ some '\r' := by decide +kernel
  obtain ⟨hlines, hlint⟩ := validate_shuffled consistent_belated hreturn Fin.revPerm
  obtain ⟨hreturns, hreported⟩ := hlint _ hlines .standard
  have hbefore : validate .standard defaultMarks belated = .ok _ := validate_eq_ok (by rfl)
  obtain ⟨ds', hafter⟩ := hreturns.mpr ⟨_, hbefore⟩
  have hplaces := hreported _ _ hbefore hafter ⟨1, by decide +kernel⟩
  have hraw : (splitLines belated)[1]? =
      some (ofString "\tGive_Achievement [$\"\x7bwhom\x7d\"]") := by decide +kernel
  have hproblems := (consistent_belated.onLine_validate hbefore hraw).map Diagnostic.place
  refine ⟨consistent_belated, hreturn, _, ds', hbefore, hafter, hplaces.trans ?_⟩
  exact hproblems.trans (.of_eq (by decide +kernel))

end Lint

end Dialogue
