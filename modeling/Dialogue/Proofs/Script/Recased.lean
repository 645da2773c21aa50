import Dialogue.Editor.Symbols
import Dialogue.Proofs.Text.LetterCase
import Mathlib.Data.List.Forall2

/-!
# Commands in another letter case

The command of a line may be written in capitals and small letters at will. The line is still one, of the
same length between the same blanks; its statement has the same parameters and the same key; and the same
names are declared on the same lines.

* `Recased`: a line with its command in another letter case. `Recased.read` says how both are read, and
  `Recased.lengths` that they are as long;
* `RecasedScript`: scripts whose lines are such;
* `Statement.Respelled`, **`parse_recased`**: the statements of both;
* **`symbols_recased`**: the declared names are the same.
-/

namespace Dialogue

open Text

namespace Script

variable {before command command' content after raw raw' source source' : Text}

/-- The line `raw'` is the line `raw`, or a command line with the ASCII letters of its command in another
case. -/
inductive Recased : Text → Text → Prop
  | same (raw : Text) : Recased raw raw
  | command {before command command' after content : Text} (hbefore : Blanks before)
      (hline : matchCommand (trim (before ++ (command ++ after))) = some (command, content))
      (hletters : SameLetters command command') :
      Recased (before ++ (command ++ after)) (before ++ (command' ++ after))

/-- The scripts differ in the letter case of commands only, line by line. -/
def RecasedScript (source source' : Text) : Prop :=
  List.Forall₂ Recased (splitLines source) (splitLines source')

/-! ## Lines -/

theorem isBlank_of_mem_identifier (h : isIdentifier command = true) {c : Char} (hc : c ∈ command) :
    isBlank c = false := isBlank_of_isNameChar (isNameChar_of_mem h c hc)

/-- Before a command the blanks are trimmed away. -/
theorem trimLeft_command (hbefore : Blanks before) (hname : isIdentifier command = true)
    (after : Text) : trimLeft (before ++ (command ++ after)) = command ++ after := by
  unfold trimLeft
  rw [List.dropWhile_append_of_pos hbefore]
  refine trimLeft_eq fun c hc => isBlank_of_mem_identifier hname ?_
  cases command with
  | nil => cases hname
  | cons d r =>
    obtain rfl := Option.some.inj hc
    exact List.mem_cons_self

theorem trim_command (hbefore : Blanks before) (hname : isIdentifier command = true) (after : Text) :
    trim (before ++ (command ++ after)) = command ++ trimRight after := by
  unfold trim
  rw [trimLeft_command hbefore hname]
  exact trimRight_append (fun c hc => isBlank_of_mem_identifier hname (List.mem_of_getLast? hc)) after

/-- **A command line is read as one in any letter case**, with the same content. -/
theorem matchCommand_recased (hbefore : Blanks before)
    (hline : matchCommand (trim (before ++ (command ++ after))) = some (command, content))
    (hletters : SameLetters command command') :
    matchCommand (trim (before ++ (command' ++ after))) = some (command', content) := by
  obtain ⟨blanks, ending, hform⟩ := CommandForm.exists_of_matchCommand hline
  have hname : isIdentifier command' = true := hletters.isIdentifier.trans hform.name
  have hrest : trimRight after = blanks ++ '[' :: (content ++ ']' :: ending) := by
    have htext := hform.text
    rw [trim_command hbefore hform.name] at htext
    exact List.append_cancel_left htext
  rw [trim_command hbefore hname, hrest]
  exact CommandForm.matchCommand_eq ⟨rfl, hname, hform.blank, hform.feed, hform.closed⟩

/-- **How both lines are read**: as the same text, or as command lines with the same content and the
same small letters of their commands. -/
theorem Recased.read (h : Recased raw raw') : raw' = raw ∨ ∃ command command' content,
    matchCommand (trim raw) = some (command, content) ∧
    matchCommand (trim raw') = some (command', content) ∧ lower command' = lower command := by
  cases h with
  | same raw => exact .inl rfl
  | command hbefore hline hletters =>
    exact .inr ⟨_, _, _, hline, matchCommand_recased hbefore hline hletters,
      hletters.lower_eq (matchCommand_eq_some hline).1⟩

/-- **Both lines are as long**, and so are the blanks around them. -/
theorem Recased.lengths (h : Recased raw raw') : raw'.length = raw.length ∧
    (trimLeft raw').length = (trimLeft raw).length ∧ (trim raw').length = (trim raw).length := by
  cases h with
  | same raw => exact ⟨rfl, rfl, rfl⟩
  | command hbefore hline hletters =>
    have hname := (matchCommand_eq_some hline).1
    have hname' := hletters.isIdentifier.trans hname
    have hlength := hletters.length_eq
    rw [trimLeft_command hbefore hname, trimLeft_command hbefore hname', trim_command hbefore hname,
      trim_command hbefore hname']
    simp only [List.length_append, hlength, and_self]

end Script

open Script

variable {i : Int} {raw raw' source source' : Text} {s s' : Statement}

/-! ## Statements -/

/-- The statements differ in the spelling of the command only. -/
structure Statement.Respelled (s s' : Statement) : Prop where
  key : s'.key = s.key
  params : s'.params = s.params
  line : s'.line = s.line

theorem Statement.Respelled.refl (s : Statement) : s.Respelled s := ⟨rfl, rfl, rfl⟩

theorem Statement.Respelled.verb? (h : s.Respelled s') : s'.verb? = s.verb? := by
  unfold Statement.verb?
  rw [h.key]

theorem Statement.Respelled.marker? (h : s.Respelled s') : s'.marker? = s.marker? := by
  unfold Statement.marker?
  rw [h.verb?, h.params]

/-- A line that is read as a command and a content is a statement. -/
theorem Statement.ofLine_of_matchCommand {command content : Text} (i : Int)
    (hline : matchCommand (trim raw) = some (command, content)) :
    Statement.ofLine defaultMarks i raw =
      some { command, params := (splitParams content).map Param.ofToken, line := i, raw } :=
  Statement.ofLine_eq_some_iff.mpr
    ⟨isSkippable_of_matchCommand (by rw [hline]; rfl), command, content, hline, rfl⟩

theorem Statement.ofLine_recased (h : Recased raw raw') (i : Int) :
    List.Forall₂ Statement.Respelled (Statement.ofLine defaultMarks i raw).toList
      (Statement.ofLine defaultMarks i raw').toList := by
  rcases h.read with rfl | ⟨command, command', content, hline, hline', hlower⟩
  · exact List.forall₂_same.mpr fun s _ => .refl s
  · rw [Statement.ofLine_of_matchCommand i hline, Statement.ofLine_of_matchCommand i hline']
    exact .cons ⟨hlower, rfl, rfl⟩ .nil

/-- **The statements are the same**, but for the spelling of their commands. -/
theorem Script.parse_recased (h : RecasedScript source source') :
    List.Forall₂ Statement.Respelled (parse defaultMarks source) (parse defaultMarks source') := by
  have hlines : ∀ {lines lines' : List Text} (first : Nat), List.Forall₂ Recased lines lines' →
      List.Forall₂ Statement.Respelled (parseLines defaultMarks first lines)
        (parseLines defaultMarks first lines') := by
    intro lines lines' first h
    induction h generalizing first with
    | nil => exact .nil
    | cons hraw hrest ih => exact List.rel_append (Statement.ofLine_recased hraw first) (ih (first + 1))
  exact hlines 0 h

/-! ## Markers and declared names -/

theorem Script.enterLabels_respelled {script script' : List Statement}
    (h : List.Forall₂ Statement.Respelled script script') (first : Nat) (table : Table Nat) :
    enterLabels first table script' = enterLabels first table script := by
  induction h generalizing first table with
  | nil => rfl
  | cons hs hrest ih => rw [enterLabels, enterLabels, hs.marker?, ih]

theorem Symbols.add_respelled (h : s.Respelled s') (y : Symbols) : y.add s' = y.add s := by
  unfold Symbols.add
  rw [h.verb?, h.params, h.line]

/-- **The declared names are the same**, with their types and lines. -/
theorem symbols_recased (h : RecasedScript source source') :
    symbols defaultMarks source' = symbols defaultMarks source := by
  have hadd : ∀ {script script' : List Statement}, List.Forall₂ Statement.Respelled script script' →
      ∀ y, script'.foldl Symbols.add y = script.foldl Symbols.add y := by
    intro script script' h
    induction h with
    | nil => exact fun _ => rfl
    | cons hs hrest ih =>
      intro y
      rw [List.foldl_cons, List.foldl_cons, Symbols.add_respelled hs, ih]
  exact hadd (parse_recased h) {}

end Dialogue
