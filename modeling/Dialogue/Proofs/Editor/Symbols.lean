import Dialogue.Editor.Symbols
import Dialogue.Proofs.Lint.Declared
import Dialogue.Proofs.Lint.VariableTypes
import Dialogue.Proofs.Machine.Labels

/-!
# The symbol tables agree

Three readers list the names that a script declares: the machine its labels, the linter its
variables, and the editor both. The editor keeps the first declaration of a name, by its line; a
label is the first one too, by the number of its statement; the linter keeps the first type and
moves on to the last line that repeats it.

* `keys_markers`, `get?_markers`: the editor's markers are those of the labels;
* `symbol?_ofLine`: what the editor and the linter make of one line;
* `symbols_vars`: the editor's variables are the first declarations of the linter's list;
* **`symbols_agree`**: the tables of a script have the same names in the same order, and lines that
  fit.
-/

namespace Dialogue

open Text Script Lint

variable {marks : List Text}

/-! ## Markers -/

namespace Symbols

theorem add_markers (y : Symbols) (s : Statement) :
    (y.add s).markers =
      match s.marker? with
      | some m => y.markers.putNew m s.line
      | none => y.markers := by
  unfold add Statement.marker?
  cases s.params.head? with
  | none => simp
  | some p =>
    cases s.verb? with
    | none => simp
    | some v => cases v <;> simp [Verb.declares]

/-- Markers are entered where labels are. -/
theorem keys_markers (script : List Statement) (first : Nat) (table : Table Nat) (y : Symbols)
    (h : y.markers.keys = table.keys) :
    (script.foldl add y).markers.keys = (enterLabels first table script).keys := by
  induction script generalizing first table y with
  | nil => exact h
  | cons s rest ih =>
    rw [List.foldl_cons, enterLabels]
    refine ih _ _ _ ?_
    rw [add_markers]
    cases s.marker? with
    | none => exact h
    | some m => exact Table.keys_putNew_congr h m s.line first

/-- A marker has the line of the first statement that declares it. -/
theorem get?_markers (script : List Statement) (y : Symbols) (m : Text) :
    (script.foldl add y).markers.get? m =
      (y.markers.get? m).or ((script.find? fun s => s.marker? = some m).map (·.line)) := by
  induction script generalizing y with
  | nil => rw [List.foldl_nil, List.find?_nil, Option.map_none, Option.or_none]
  | cons s rest ih =>
    rw [List.foldl_cons, ih, add_markers, List.find?_cons]
    cases hs : s.marker? with
    | none => rfl
    | some n =>
      simp only [Table.get?_putNew]
      by_cases hn : n = m
      · subst hn
        simp only [if_true, decide_true, Option.map_some]
        cases y.markers.get? n <;> rfl
      · simp [hn]

end Symbols

/-- The statement that a label leads to is the one that is found. -/
theorem find?_of_get?_labels {script : List Statement} {m : Text} {i : Nat}
    (h : (labels script).get? m = some i) :
    ∃ s, script[i]? = some s ∧ (script.find? fun s => s.marker? = some m) = some s := by
  rw [get?_labels, List.findIdx?_eq_some_iff_getElem] at h
  obtain ⟨hi, hmark, hbefore⟩ := h
  refine ⟨script[i], List.getElem?_eq_getElem hi, List.find?_eq_some_iff_getElem.mpr ?_⟩
  exact ⟨hmark, i, hi, rfl, fun j hj => by simpa using hbefore j hj⟩

/-! ## Variables -/

/-- The entry that the editor makes for a variable that the statement declares. -/
def Statement.symbol? (s : Statement) : Option (Text × (ParamType × Int)) := do
  let p ← s.params.head?
  let verb ← s.verb?
  let type ← verb.declares
  return (p.value, (type, s.line))

theorem Symbols.add_vars (y : Symbols) (s : Statement) :
    (y.add s).vars = y.vars.putNewAll s.symbol?.toList := by
  unfold Symbols.add Statement.symbol?
  cases s.params.head? with
  | none => rfl
  | some p =>
    cases s.verb? with
    | none => rfl
    | some v => cases v <;> rfl

theorem Symbols.foldl_add_vars (script : List Statement) (y : Symbols) :
    (script.foldl Symbols.add y).vars =
      y.vars.putNewAll (script.filterMap Statement.symbol?) := by
  induction script generalizing y with
  | nil => rfl
  | cons s rest ih =>
    rw [List.foldl_cons, ih, Symbols.add_vars, List.filterMap_cons]
    cases s.symbol? <;> rfl

/-- What `Named` says of one line: if it declares and has parameters, the first of them is a quoted
identifier. -/
def NamesVariable (marks : List Text) (raw : Text) : Prop :=
  ∀ command content v type token,
    commandLine? marks raw = some (command, content) → Verb.ofKey? (lower command) = some v →
      v.declares = some type → (splitParams content).head? = some token →
        (quotedName? token).isSome

theorem namesVariable_iff {raw : Text} : NamesVariable marks raw ↔
    ∀ parts ∈ commandLine? marks raw, ∀ v ∈ Verb.ofKey? (lower parts.1), ∀ _ ∈ v.declares,
      ∀ token ∈ (splitParams parts.2).head?, (quotedName? token).isSome := by
  constructor
  · intro h parts hline v hverb type htype token htoken
    exact h parts.1 parts.2 v type token hline hverb htype htoken
  · intro h command content v type token hline hverb htype htoken
    exact h (command, content) hline v hverb type htype token htoken

instance (marks : List Text) (raw : Text) : Decidable (NamesVariable marks raw) :=
  decidable_of_iff' _ namesVariable_iff

instance (marks : List Text) (source : Text) : Decidable (Named marks source) :=
  inferInstanceAs (Decidable (∀ raw ∈ splitLines source, NamesVariable marks raw))

theorem stripQuotes_of_quotedName {t name : Text} (h : quotedName? t = some name) :
    stripQuotes t = name := by
  obtain ⟨hbody, hname⟩ := quotedName?_eq_some_iff.mp h
  rw [stripQuotes, hbody]
  exact unescape_of_not_mem (not_mem_of_isIdentifier hname (by decide))

/-- What the editor shows of a declaration. -/
def Lint.Declaration.symbol (d : Declaration) : ParamType × Int := (d.type, d.line)

/-- **The editor and the linter read the same declaration off a line** that names its variable. -/
theorem symbol?_ofLine {raw : Text} (hraw : NamesVariable marks raw) (index : Nat) :
    (Statement.ofLine marks index raw).bind Statement.symbol? =
      (declaration? marks index raw).map fun e => (e.1, e.2.symbol) := by
  have hline : Statement.ofLine marks index raw =
      (commandLine? marks raw).map fun parts =>
        { command := parts.1
          params := (splitParams parts.2).map Param.ofToken
          line := index
          raw } := by
    rw [Statement.ofLine, commandLine?]
    split_ifs <;> rfl
  rw [hline, declaration?]
  cases hcommand : commandLine? marks raw with
  | none => rfl
  | some parts =>
    obtain ⟨command, content⟩ := parts
    simp only [Option.map_some, Option.bind_some, bind, pure, Statement.symbol?, Statement.verb?,
      Statement.key, List.head?_map]
    cases htokens : (splitParams content).head? with
    | none => cases Verb.ofKey? (lower command) <;> simp
    | some token =>
      cases hverb : Verb.ofKey? (lower command) with
      | none => rfl
      | some v =>
        cases htype : v.declares with
        | none => simp [htype]
        | some type =>
          have hquoted := hraw command content v type token hcommand hverb htype htokens
          obtain ⟨name, hname⟩ := Option.isSome_iff_exists.mp hquoted
          simp [htype, hname, ofToken_quotedName hname, stripQuotes_of_quotedName hname,
            Declaration.symbol]

theorem symbols_parseLines {lines : List Text} (h : ∀ raw ∈ lines, NamesVariable marks raw)
    (first : Nat) : (parseLines marks first lines).filterMap Statement.symbol? =
      (declarations marks first lines).mapValues Declaration.symbol := by
  induction lines generalizing first with
  | nil => rfl
  | cons raw rest ih =>
    obtain ⟨hraw, hrest⟩ := List.forall_mem_cons.mp h
    have hone : ∀ o : Option Statement,
        o.toList.filterMap Statement.symbol? = (o.bind Statement.symbol?).toList := by
      intro o
      cases o with
      | none => rfl
      | some s => cases hs : s.symbol? <;> simp [hs]
    rw [parseLines, List.filterMap_append, ih hrest, hone, symbol?_ofLine hraw, declarations,
      declarations, gather, Table.mapValues, Table.mapValues, List.map_append]
    cases declaration? marks first raw <;> rfl

/-- **The editor's variables are the first declarations of the linter's list.** -/
theorem symbols_vars {source : Text} (hnamed : Named marks source) :
    (symbols marks source).vars =
      Table.putNewAll []
        ((declarations marks 0 (splitLines source)).mapValues Declaration.symbol) := by
  rw [symbols, Symbols.foldl_add_vars, parse, symbols_parseLines hnamed]

/-- Variables are entered where the linter enters them. -/
theorem keys_foldl_redeclare (es t : Table Declaration) (u : Table (ParamType × Int))
    (h : u.keys = t.keys) :
    (u.putNewAll (es.mapValues Declaration.symbol)).keys = (es.foldl redeclare t).keys := by
  induction es generalizing t u with
  | nil => exact h
  | cons e rest ih =>
    refine ih _ _ ?_
    rw [keys_redeclare]
    exact Table.keys_putNew_congr h e.1 e.2.symbol e.2

/-! ## A script -/

/-- **The symbol tables agree.** The editor's markers are the labels of the machine, in their order,
each with the line of the statement that its label leads to. When every declaring line names its
variable by a quoted identifier, the editor's variables are those of the linter, in their order and
with their types; the editor has the line of the first declaration, the linter that line or a later
one that declares the variable with the same type. -/
theorem symbols_agree (marks : List Text) (source : Text) :
    (symbols marks source).markers.keys = (labels (parse marks source)).keys ∧
    (∀ m i, (labels (parse marks source)).get? m = some i →
      ∃ (s : Statement) (n : Nat) (raw : Text), (parse marks source)[i]? = some s ∧
        (splitLines source)[n]? = some raw ∧ Statement.ofLine marks n raw = some s ∧
        (symbols marks source).markers.get? m = some (n : Int)) ∧
    (Named marks source →
      (symbols marks source).vars.keys = (collectFacts marks source).vars.keys ∧
      ∀ name type line, (symbols marks source).vars.get? name = some (type, line) →
        ∃ (n : Nat) (d : Declaration), line = n ∧
          (collectFacts marks source).vars.get? name = some d ∧ d.type = type ∧
          DeclaredAt marks source n name type ∧
          (∀ j < n, ∀ other, ¬ DeclaredAt marks source j name other) ∧
          n ≤ d.line ∧ DeclaredAt marks source d.line name type) := by
  refine ⟨?_, fun m i hlabel => ?_, fun hnamed => ⟨?_, fun name type line hsymbol => ?_⟩⟩
  · exact Symbols.keys_markers _ _ _ _ rfl
  · obtain ⟨s, hs, hfind⟩ := find?_of_get?_labels hlabel
    obtain ⟨n, raw, hraw, hline⟩ := mem_parse_iff.mp (List.mem_of_getElem? hs)
    refine ⟨s, n, raw, hs, hraw, hline, ?_⟩
    obtain ⟨-, command, content, -, rfl⟩ := Statement.ofLine_eq_some_iff.mp hline
    rw [symbols, Symbols.get?_markers, hfind, Option.map_some]
    rfl
  · rw [symbols_vars hnamed, collectFacts, addLines_vars]
    exact keys_foldl_redeclare _ _ _ rfl
  · rw [symbols_vars hnamed, Table.get?_putNewAll, Table.get?_nil, Option.none_or,
      Table.get?_mapValues] at hsymbol
    obtain ⟨d, hd, heq⟩ := Option.map_eq_some_iff.mp hsymbol
    obtain ⟨rfl, rfl⟩ := Prod.mk.inj heq
    obtain ⟨last, hlast, hname, htype, hrecorded⟩ := recorded_spec hd
    have hlines := declarations_lines marks 0 (splitLines source)
    refine ⟨d.line, { d with line := last.2.line }, rfl, ?_, rfl, ?_, ?_, ?_, ?_⟩
    · rw [get?_collectFacts, hrecorded]
    · exact declaredAt_iff.mpr ⟨_, Table.mem_of_get? hd, rfl, rfl, rfl⟩
    · intro j hj other hdecl
      obtain ⟨e, he, hsame, -, rfl⟩ := declaredAt_iff.mp hdecl
      exact absurd (le_line_of_get? hlines hd he hsame) (Nat.not_le.mpr hj)
    · exact le_line_of_get? hlines hd hlast hname
    · exact declaredAt_iff.mpr ⟨last, hlast, hname, htype, rfl⟩

/-- A script that declares a marker and a variable twice. -/
def retold : Text :=
  ofString "Line_Marker [top]\nSet_IntVar [\"n\", 1]\n#\nSet_IntVar [\"n\", 2]\nLine_Marker [top]"

theorem symbols_agree_retold : Named defaultMarks retold ∧
    (symbols defaultMarks retold).vars.get? (ofString "n") = some (.int, 1) ∧
    ∃ d, (collectFacts defaultMarks retold).vars.get? (ofString "n") = some d ∧ 1 ≤ d.line ∧
      DeclaredAt defaultMarks retold d.line (ofString "n") .int := by
  have hnamed : Named defaultMarks retold := by decide +kernel
  have hsymbol : (symbols defaultMarks retold).vars.get? (ofString "n") = some (.int, 1) := by
    decide +kernel
  obtain ⟨n, d, hn, hd, -, -, -, hle, hdecl⟩ :=
    ((symbols_agree defaultMarks retold).2.2 hnamed).2 _ _ _ hsymbol
  obtain rfl : 1 = n := Int.ofNat.inj hn
  exact ⟨hnamed, hsymbol, d, hd, hle, hdecl⟩

end Dialogue
