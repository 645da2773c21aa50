import Dialogue.Proofs.Script.Command
import Dialogue.Proofs.Script.Tokens

/-!
# Writing a statement and reading it back

A statement is written with its parameters as they were typed, but without the blanks that reading
took away. That is nearly always a line of the same statement. What can go wrong is that a backslash
loses the blank it was escaping and comes to stand before a comma or an equals sign that was meant
to count, and that an empty parameter at the end is not seen at all.

* `Param.ofToken_cases`: how a token becomes a parameter;
* `Param.toSource_token`, `Param.ofToken_toSource_iff`: a parameter is written as a token, which is
  read as the same parameter unless its name ends in an odd number of backslashes;
* `Statement.Faithful`: the statements that survive;
* **`Statement.ofLine_toSource`**: every statement is written as a line of the same command, and its
  parameters are read back exactly when it is one of those.
-/

namespace Dialogue

open Text Script Script.Mode

/-! ## One parameter -/

namespace Param

/-- A token is a positional parameter, or an equals sign counts in it. -/
theorem ofToken_cases (t : Text) :
    ofToken t = { value := stripQuotes t, raw := t } ∨
      ∃ a b, t = a ++ '=' :: b ∧ findFrom '=' start a = none ∧ start.after a = start ∧
        ofToken t = { value := stripQuotes (trim b), raw := trim b, name := some (trim a) } := by
  rw [ofToken, splitNamed, findTopLevel]
  cases hfind : findFrom '=' start t with
  | none => exact .inl rfl
  | some i =>
    obtain ⟨a, b, rfl, rfl, hnone, hafter⟩ := findFrom_eq_some hfind
    exact .inr ⟨a, b, rfl, hnone, hafter, by simp⟩

theorem ofToken_named {a : Text} (hnone : findFrom '=' start a = none)
    (hafter : start.after a = start) (b : Text) : ofToken (a ++ '=' :: b) =
      { value := stripQuotes (trim b), raw := trim b, name := some (trim a) } := by
  simp only [ofToken, splitNamed_append hnone hafter b]

/-- Whether or not the equals sign behind a name counts, the value is read from the start. -/
theorem after_named {name : Text} (h : (start.after name).inQuotes = false) (r : Text) :
    start.after (name ++ '=' :: r) = start.after r := by
  rw [after_append, after_cons, next_plain (by decide) (by decide), h]
  rfl

theorem findFrom_comma_named {name r : Text} (h : (start.after name).inQuotes = false) :
    findFrom ',' start (name ++ '=' :: r) = none ↔
      findFrom ',' start name = none ∧ findFrom ',' start r = none := by
  rw [findFrom_append_eq_none_iff, findFrom_comma_cons_eq_none (by simp),
    next_plain (by decide) (by decide), h]
  rfl

/-- **A parameter is written as a token,** which ends inside a string when the token it was read
from did. -/
theorem toSource_token {t : Text} (ht : Trimmed t) (hwhole : findFrom ',' start t = none) :
    Trimmed (ofToken t).toSource ∧ findFrom ',' start (ofToken t).toSource = none ∧
      (start.after (ofToken t).toSource).inQuotes = (start.after t).inQuotes := by
  rcases ofToken_cases t with h | ⟨a, b, rfl, -, hafter, h⟩
  · rw [h]
    exact ⟨ht, hwhole, rfl⟩
  · have ha : (start.after a).inQuotes = false := by rw [hafter]; rfl
    have hname : (start.after (trim a)).inQuotes = false := by rw [inQuotes_after_trim, ha]
    obtain ⟨hwa, hwb⟩ := (findFrom_comma_named ha).mp hwhole
    rw [h]
    refine ⟨(trim_trimmed a).append_cons (trim_trimmed b) (by decide), ?_, ?_⟩
    · exact (findFrom_comma_named hname).mpr ⟨findFrom_trim hwa, findFrom_trim hwb⟩
    · change (start.after (trim a ++ '=' :: trim b)).inQuotes = _
      rw [after_named hname, after_named ha, inQuotes_after_trim]

theorem mem_of_mem_toSource {t : Text} {c : Char} (h : c ∈ (ofToken t).toSource) : c ∈ t := by
  rcases ofToken_cases t with ht | ⟨a, b, rfl, -, -, ht⟩
  · rwa [ht] at h
  · rw [ht] at h
    change c ∈ trim a ++ '=' :: trim b at h
    rcases List.mem_append.mp h with h | h
    · exact List.mem_append_left _ (mem_of_mem_trim h)
    · refine List.mem_append_right a ?_
      rcases List.mem_cons.mp h with rfl | h
      · exact List.mem_cons_self
      · exact List.mem_cons_of_mem _ (mem_of_mem_trim h)

/-- Behind a name whose last backslash escapes the equals sign, no parameter of that name is read. -/
theorem name_ne_of_endsOdd {a : Text} (h : EndsOdd (trim a)) (r : Text) :
    (ofToken (trim a ++ '=' :: r)).name ≠ some (trim a) := by
  intro hname
  rcases ofToken_cases (trim a ++ '=' :: r) with hread | ⟨a', b', hsplit, -, hafter, hread⟩
  · rw [hread] at hname
    cases hname
  · rw [hread] at hname
    have htrim : trim a' = trim a := Option.some.inj hname
    have hsame : a' ≠ trim a := by
      intro heq
      rw [heq] at hafter
      have hescaped := (escaped_after (m := start) rfl (trim a)).mpr h
      rw [hafter] at hescaped
      cases hescaped
    have hequals : isBlank '=' = false := by decide
    -- two equals signs count for the two names, so that one name is longer by more than blanks
    rcases List.append_eq_append_iff.mp hsplit with ⟨x, hx, hrest⟩ | ⟨x, hx, hrest⟩
    · cases x with
      | nil => exact hsame (by simpa using hx)
      | cons c y =>
        obtain rfl := (List.cons.inj hrest).1
        refine trim_ne_of_longer hequals (trim a) y ?_
        rw [← hx, htrim, trim_trim]
    · cases x with
      | nil => exact hsame (by simpa using hx.symm)
      | cons c y =>
        obtain rfl := (List.cons.inj hrest).1
        refine trim_ne_of_longer hequals a' y ?_
        rw [← hx, htrim, trim_trim]

/-- **A parameter is read back from what it is written as** unless its name ends in an odd number of
backslashes. -/
theorem ofToken_toSource_iff (t : Text) : ofToken (ofToken t).toSource = ofToken t ↔
    ∀ name, (ofToken t).name = some name → ¬ EndsOdd name := by
  rcases ofToken_cases t with h | ⟨a, b, rfl, hnone, hafter, h⟩
  · rw [h]
    exact iff_of_true h fun _ hname => by cases hname
  · rw [h]
    change ofToken (trim a ++ '=' :: trim b) = _ ↔ _
    constructor
    · rintro heq name hname hodd
      obtain rfl := Option.some.inj hname
      exact name_ne_of_endsOdd hodd (trim b) (congrArg Param.name heq)
    · intro hodd
      have hclosed : (start.after (trim a)).inQuotes = false := by
        rw [inQuotes_after_trim, hafter]
        rfl
      rw [ofToken_named (findFrom_trim hnone) (start_after_eq hclosed (hodd _ rfl)), trim_trim,
        trim_trim]

theorem toSource_eq_nil_iff (p : Param) : p.toSource = [] ↔ p.name = none ∧ p.raw = [] := by
  obtain ⟨value, raw, name⟩ := p
  cases name <;> simp [toSource]

end Param

/-! ## The parameters of a statement -/

namespace Param

/-- What parameters need to survive being written: the last one can be seen, no comma between two of
them is escaped, and neither is the equals sign behind a name. -/
structure Faithful (ps : List Param) : Prop where
  last : ∀ p, ps.getLast? = some p → ¬ (p.name = none ∧ p.raw = [])
  inner : ∀ p ∈ ps.dropLast, ¬ EndsOdd p.toSource
  names : ∀ p ∈ ps, ∀ name, p.name = some name → ¬ EndsOdd name

theorem faithful_iff (ps : List Param) : Faithful ps ↔
    (ps.map toSource).getLast? ≠ some [] ∧ (∀ w ∈ (ps.map toSource).dropLast, ¬ EndsOdd w) ∧
      ∀ p ∈ ps, ∀ name, p.name = some name → ¬ EndsOdd name := by
  have hlast : (ps.map toSource).getLast? ≠ some [] ↔
      ∀ p, ps.getLast? = some p → ¬ (p.name = none ∧ p.raw = []) := by
    simp [List.getLast?_map, toSource_eq_nil_iff]
  rw [hlast, ← List.map_dropLast, List.forall_mem_map]
  exact ⟨fun h => ⟨h.last, h.inner, h.names⟩, fun ⟨hl, hi, hn⟩ => ⟨hl, hi, hn⟩⟩

theorem tokens_toSource {ts : List Text} (h : Tokens ts) :
    Tokens ((ts.map ofToken).map toSource) := by
  rw [List.map_map]
  constructor
  case trimmed =>
    intro w hw
    obtain ⟨t, ht, rfl⟩ := List.mem_map.mp hw
    exact (toSource_token (h.trimmed t ht) (h.whole t ht)).1
  case whole =>
    intro w hw
    obtain ⟨t, ht, rfl⟩ := List.mem_map.mp hw
    exact (toSource_token (h.trimmed t ht) (h.whole t ht)).2.1
  case closed =>
    intro w hw
    rw [← List.map_dropLast] at hw
    obtain ⟨t, ht, rfl⟩ := List.mem_map.mp hw
    have hmem := List.dropLast_subset ts ht
    have hquotes := (toSource_token (h.trimmed t hmem) (h.whole t hmem)).2.2
    exact hquotes.trans (h.closed t ht)

/-- **The parameters of tokens are read back exactly when they are faithful.** -/
theorem splitParams_toSource_iff {ts : List Text} (h : Tokens ts) :
    (splitParams (join ((ts.map ofToken).map toSource))).map ofToken = ts.map ofToken ↔
      Faithful (ts.map ofToken) := by
  have htokens := tokens_toSource h
  have hread : ((ts.map ofToken).map toSource).map ofToken = ts.map ofToken ↔
      ∀ p ∈ ts.map ofToken, ∀ name, p.name = some name → ¬ EndsOdd name := by
    rw [List.map_map, List.map_map, List.map_inj_left, List.forall_mem_map]
    exact forall₂_congr fun t _ => ofToken_toSource_iff t
  rw [faithful_iff]
  constructor
  · intro heq
    by_cases hbad : ((ts.map ofToken).map toSource).getLast? = some [] ∨
        ∃ w ∈ ((ts.map ofToken).map toSource).dropLast, EndsOdd w
    · have hlt := htokens.length_splitParams_join hbad
      have hlen := congrArg List.length heq
      simp only [List.length_map] at hlen hlt
      omega
    · obtain ⟨hlast, hinner⟩ := not_or.mp hbad
      have hodd : ∀ w ∈ ((ts.map ofToken).map toSource).dropLast, ¬ EndsOdd w :=
        fun w hw hw' => hinner ⟨w, hw, hw'⟩
      rw [htokens.splitParams_join hlast hodd] at heq
      exact ⟨hlast, hodd, hread.mp heq⟩
  · rintro ⟨hlast, hodd, hnames⟩
    rw [htokens.splitParams_join hlast hodd, hread.mpr hnames]

end Param

/-! ## The whole line -/

namespace Statement

/-- **Every statement is written as a line of the same command, and its parameters are read back
exactly when they are faithful.** -/
theorem ofLine_toSource {line : Int} {raw : Text} {s : Statement}
    (h : ofLine defaultMarks line raw = some s) (line' : Int) :
    ∃ s', ofLine defaultMarks line' s.toSource = some s' ∧ s'.command = s.command ∧
      (s'.params = s.params ↔ Param.Faithful s.params) := by
  obtain ⟨-, command, content, hmatch, rfl⟩ := ofLine_eq_some_iff.mp h
  obtain ⟨hname, hfeed⟩ := matchCommand_eq_some hmatch
  set ts := splitParams content with hts
  set written := join ((ts.map Param.ofToken).map Param.toSource) with hwritten
  have hfeed' : '\n' ∉ written := by
    intro hmem
    rcases mem_joinWith hmem with hsep | ⟨w, hw, hc⟩
    · exact absurd hsep (by decide)
    · rw [List.map_map] at hw
      obtain ⟨t, ht, rfl⟩ := List.mem_map.mp hw
      exact hfeed (mem_of_mem_splitParams ht (Param.mem_of_mem_toSource hc))
  have htrim := (commandLine_trimmed hname written).trim_eq
  refine ⟨_, ofLine_eq_some_iff.mpr ⟨?_, command, written, ?_, rfl⟩, rfl, ?_⟩
  · change isSkippable defaultMarks (trim (commandLine command written)) = false
    rw [htrim, isSkippable_commandLine hname]
  · change matchCommand (trim (commandLine command written)) = _
    rw [htrim, matchCommand_commandLine hname hfeed']
  · exact Param.splitParams_toSource_iff (splitParams_tokens content)

/-- A line with a comma inside a string and blanks around the name of a parameter. -/
def quotedComma : Text := ofString "Show_Options [\"Stay, please\" , prompt = $who]"

theorem ofLine_toSource_quotedComma : ∃ s, ofLine defaultMarks 3 quotedComma = some s ∧
    ∃ s', ofLine defaultMarks 0 s.toSource = some s' ∧ s'.command = s.command ∧
      (s'.params = s.params ↔ Param.Faithful s.params) := by
  have h : ofLine defaultMarks 3 quotedComma = some _ := rfl
  exact ⟨_, h, ofLine_toSource h 0⟩

-- the first backslash loses the blank that it escaped, and the comma is escaped in its place
example : ((ofLine defaultMarks 0 (ofString "Go [a\\ , b]")).bind fun s =>
    ofLine defaultMarks 1 s.toSource).map (·.params.length) = some 1 := by decide

end Statement

end Dialogue
