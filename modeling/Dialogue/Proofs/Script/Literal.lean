import Dialogue.Lint.Check
import Dialogue.Proofs.Machine.Resolve
import Dialogue.Proofs.Script.Tokens

/-!
# Quoted literals arrive unchanged

Every text without a line feed can be written between double quotes, with a backslash before each
double quote and backslash of its own. Whatever reads a script gets that text back: the commas and
equals signs in it do not count, the machine resolves it to itself, and the linter takes it for a
string.

* `Mode.quoted_after_escape`: an escaped text stays inside the string that it is in;
* `findFrom_enquote`, `start_after_enquote`: nothing counts in a literal, and nothing is left open
  behind it;
* **`splitParams_enquote`**: literals between commas are cut into themselves;
* `Param.ofToken_enquote`, `resolveAll_literals`, `checkValue_enquote`: what statement, machine and
  linter make of a literal;
* **`ofLine_enquote`**: a command line of literals, as all three read it.
-/

namespace Dialogue

open Text Script Script.Mode

namespace Script

/-! ## Escaped texts -/

theorem escape_of_special {c : Char} (h : c = '"' ∨ c = '\\') (t : Text) :
    escape (c :: t) = '\\' :: c :: escape t := by
  rw [escape, if_pos h]

theorem escape_of_plain {c : Char} (h : ¬ (c = '"' ∨ c = '\\')) (t : Text) :
    escape (c :: t) = c :: escape t := by
  rw [escape, if_neg h]

/-- Escaping puts in nothing but backslashes. -/
theorem mem_of_mem_escape {t : Text} {d : Char} (hd : d ≠ '\\') (h : d ∈ escape t) : d ∈ t := by
  induction t with
  | nil => cases h
  | cons c r ih =>
    by_cases hc : c = '"' ∨ c = '\\'
    · rw [escape_of_special hc] at h
      rcases List.mem_cons.mp ((List.mem_cons.mp h).resolve_left hd) with rfl | h
      · exact List.mem_cons_self
      · exact List.mem_cons_of_mem c (ih h)
    · rw [escape_of_plain hc] at h
      rcases List.mem_cons.mp h with rfl | h
      · exact List.mem_cons_self
      · exact List.mem_cons_of_mem c (ih h)

namespace Mode

/-- A scan inside a string, with no character escaped. -/
def quoted : Mode := ⟨true, false⟩

theorem quoted_next_plain {c : Char} (h : ¬ (c = '"' ∨ c = '\\')) : quoted.next c = quoted := by
  rw [not_or] at h
  rw [next_plain h.2 h.1]
  rfl

/-- Behind a backslash every character belongs to the string. -/
theorem quoted_next_escaped (c : Char) : (quoted.next '\\').next c = quoted := rfl

/-- **An escaped text stays inside the string that it is in.** -/
theorem quoted_after_escape (t : Text) : quoted.after (escape t) = quoted := by
  induction t with
  | nil => rfl
  | cons c r ih =>
    by_cases hc : c = '"' ∨ c = '\\'
    · rw [escape_of_special hc, after_cons, after_cons, quoted_next_escaped, ih]
    · rw [escape_of_plain hc, after_cons, quoted_next_plain hc, ih]

end Mode

/-- Inside a string nothing counts. -/
theorem findFrom_quoted_cons {target c : Char} {m : Mode} (hm : m.inQuotes = true) (t : Text) :
    findFrom target m (c :: t) = (findFrom target (m.next c) t).map (· + 1) := by
  rw [findFrom, if_neg]
  simp [isTop, hm]

theorem findFrom_quoted_escape (target : Char) (t : Text) :
    findFrom target quoted (escape t) = none := by
  induction t with
  | nil => rfl
  | cons c r ih =>
    by_cases hc : c = '"' ∨ c = '\\'
    · rw [escape_of_special hc, findFrom_quoted_cons rfl, findFrom_quoted_cons rfl,
        quoted_next_escaped, ih]
      rfl
    · rw [escape_of_plain hc, findFrom_quoted_cons rfl, quoted_next_plain hc, ih]
      rfl

/-! ## Literals -/

theorem enquote_eq (t : Text) : enquote t = '"' :: (escape t ++ ['"']) := rfl

theorem quotedBody?_enquote (t : Text) : quotedBody? (enquote t) = some (escape t) :=
  quotedBody?_eq_some_iff.mpr (enquote_eq t)

/-- **Nothing counts in a literal.** -/
theorem findFrom_enquote (target : Char) (t : Text) :
    findFrom target start (enquote t) = none := by
  have hbody : findFrom target quoted (escape t ++ ['"']) = none := by
    refine findFrom_append_eq_none_iff.mpr ⟨findFrom_quoted_escape target t, ?_⟩
    rw [quoted_after_escape, findFrom_quoted_cons rfl]
    rfl
  rw [enquote_eq, findFrom, if_neg (by simp)]
  change (findFrom target quoted (escape t ++ ['"'])).map (· + 1) = none
  rw [hbody]
  rfl

/-- Behind a literal the scan is as it was at the start. -/
theorem start_after_enquote (t : Text) : start.after (enquote t) = start := by
  rw [enquote_eq, after_cons]
  change quoted.after (escape t ++ ['"']) = start
  rw [after_append, quoted_after_escape]
  rfl

theorem not_endsOdd_enquote (t : Text) : ¬ EndsOdd (enquote t) := by
  rw [← escaped_after (m := start) rfl, start_after_enquote]
  exact Bool.false_ne_true

theorem mem_of_mem_enquote {t : Text} {d : Char} (hquote : d ≠ '"') (hslash : d ≠ '\\')
    (h : d ∈ enquote t) : d ∈ t := by
  have hbody := (List.mem_cons.mp h).resolve_left hquote
  rcases List.mem_append.mp hbody with h | h
  · exact mem_of_mem_escape hslash h
  · exact absurd (List.mem_singleton.mp h) hquote

theorem tokens_enquote (values : List Text) : Tokens (values.map enquote) where
  trimmed w hw := by
    obtain ⟨v, -, rfl⟩ := List.mem_map.mp hw
    exact trimmed_quoted (escape v)
  whole w hw := by
    obtain ⟨v, -, rfl⟩ := List.mem_map.mp hw
    exact findFrom_enquote ',' v
  closed w hw := by
    obtain ⟨v, -, rfl⟩ := List.mem_map.mp (List.dropLast_subset _ hw)
    rw [start_after_enquote]
    rfl

/-- **Literals between commas are cut into themselves,** whatever commas are inside them. -/
theorem splitParams_enquote (values : List Text) :
    splitParams (join (values.map enquote)) = values.map enquote := by
  refine (tokens_enquote values).splitParams_join ?_ ?_
  · intro hlast
    obtain ⟨v, -, hv⟩ := List.mem_map.mp (List.mem_of_getLast? hlast)
    cases hv
  · intro w hw
    obtain ⟨v, -, rfl⟩ := List.mem_map.mp (List.dropLast_subset _ hw)
    exact not_endsOdd_enquote v

/-- A line feed in a content of literals would be one of their texts. -/
theorem not_mem_join_enquote {values : List Text} (h : ∀ v ∈ values, '\n' ∉ v) :
    '\n' ∉ join (values.map enquote) := by
  intro hmem
  rcases mem_joinWith hmem with hsep | ⟨w, hw, hfeed⟩
  · exact absurd hsep (by decide)
  · obtain ⟨v, hv, rfl⟩ := List.mem_map.mp hw
    exact h v hv (mem_of_mem_enquote (by decide) (by decide) hfeed)

end Script

/-! ## What is made of a literal -/

/-- The positional parameter that is written as a literal. -/
def Param.literal (v : Text) : Param := { value := v, raw := enquote v }

theorem Param.ofToken_enquote (v : Text) : ofToken (enquote v) = literal v := by
  rw [ofToken, splitNamed, findTopLevel, findFrom_enquote]
  simp [literal, stripQuotes_enquote]

theorem Machine.resolve_literal (vars : Table Machine.Variable) (v : Text) :
    resolve vars (Param.literal v) = .ok v := by
  rw [resolve_quoted (p := Param.literal v) (quotedBody?_enquote v), unescape_escape]

theorem Machine.resolveAll_literals (vars : Table Machine.Variable) (values : List Text) :
    resolveAll vars (values.map Param.literal) = .ok values := by
  induction values with
  | nil => rfl
  | cons v values ih =>
    rw [List.map_cons, resolveAll, resolve_literal, ih]
    rfl

/-- The linter has nothing to say of a literal that is given for a string. -/
theorem Lint.checkValue_enquote {spec : ParamSpec} (hspec : spec.type = .string)
    (facts : Lint.Facts) (place : Lint.Place) (v : Text) :
    checkValue facts spec place (enquote v) = [] := by
  have href : referenceName? (enquote v) = none := by simp [enquote_eq, referenceName?]
  have hmatches : matchesType (enquote v) spec.type = true := by
    simp [matchesType, hspec, quotedBody?_enquote]
  have hplain : (ofString "$\"").isPrefixOf (enquote v) = false := by
    simp [enquote_eq, ofString, List.isPrefixOf]
  rw [checkValue, href]
  simp only [hmatches, if_true, checkPlaceholders, hplain, if_neg Bool.false_ne_true]

/-! ## A line of literals -/

namespace Statement

/-- **Every list of texts can be given to a command as literals and arrives unchanged**: statement,
machine and linter read exactly these texts, one for each literal, as positional parameters, with
whatever variables, and the linter accepts each for a string. -/
theorem ofLine_enquote {command : Text} {values : List Text} (hname : isIdentifier command = true)
    (hfeed : ∀ v ∈ values, '\n' ∉ v) (line : Int) :
    ∃ s content,
      ofLine defaultMarks line (commandLine command (join (values.map enquote))) = some s ∧
      Lint.commandLine? defaultMarks (commandLine command (join (values.map enquote))) =
        some (command, content) ∧
      s.command = command ∧ s.params.map Param.value = values ∧ s.positional = s.params ∧
      (∀ vars, Machine.resolveAll vars s.params = .ok values) ∧
      splitParams content = values.map enquote ∧
      ∀ token ∈ splitParams content, ∀ facts spec place, spec.type = .string →
        Lint.checkValue facts spec place token = [] := by
  set content := join (values.map enquote)
  have htrim := (commandLine_trimmed hname content).trim_eq
  have hskip := isSkippable_commandLine hname content
  have hmatch : matchCommand (commandLine command content) = some (command, content) :=
    matchCommand_commandLine hname (not_mem_join_enquote hfeed)
  have hsplit : splitParams content = values.map enquote := splitParams_enquote values
  have hparams : (splitParams content).map Param.ofToken = values.map Param.literal := by
    rw [hsplit, List.map_map]
    exact List.map_congr_left fun v _ => Param.ofToken_enquote v
  refine ⟨_, content, ofLine_eq_some_iff.mpr ⟨?_, command, content, ?_, rfl⟩, ?_, rfl, ?_, ?_, ?_,
    hsplit, ?_⟩
  · rw [htrim, hskip]
  · rw [htrim, hmatch]
  · simp only [Lint.commandLine?, htrim, hskip, hmatch, if_neg Bool.false_ne_true]
  · simp only [hparams, List.map_map]
    exact List.map_id values
  · simp only [positional, hparams]
    refine List.filter_eq_self.mpr fun p hp => ?_
    obtain ⟨v, -, rfl⟩ := List.mem_map.mp hp
    rfl
  · intro vars
    simp only [hparams]
    exact Machine.resolveAll_literals vars values
  · rw [hsplit]
    intro token htoken facts spec place hspec
    obtain ⟨v, -, rfl⟩ := List.mem_map.mp htoken
    exact Lint.checkValue_enquote hspec facts place v

/-- Texts with everything in them that means something to one of the readers. -/
def awkward : List Text :=
  [ofString "a, b\\", ofString "\\\"=]", [], ofString " $x \x7by\x7d "]

theorem ofLine_enquote_awkward : isIdentifier (ofString "Act_Speak") = true ∧
    (∀ v ∈ awkward, '\n' ∉ v) ∧
    ∃ s, ofLine defaultMarks 0 (commandLine (ofString "Act_Speak") (join (awkward.map enquote))) =
        some s ∧ s.params.map Param.value = awkward ∧ s.positional = s.params ∧
      ∀ vars, Machine.resolveAll vars s.params = .ok awkward := by
  have hname : isIdentifier (ofString "Act_Speak") = true := by decide
  have hfeed : ∀ v ∈ awkward, '\n' ∉ v := by decide
  obtain ⟨s, -, hs, -, -, hvalues, hpositional, hresolve, -⟩ := ofLine_enquote hname hfeed 0
  exact ⟨hname, hfeed, s, hs, hvalues, hpositional, hresolve⟩

end Statement

end Dialogue
