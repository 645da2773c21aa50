import Dialogue.Proofs.Text.Trim
import Dialogue.Script.Statement
import Mathlib.Tactic.Common

/-!
# Command lines

A command line is an identifier, blanks, and a content between brackets that holds no line feed, and
every line put together from these is read back as what it was made from.

* `leadingName_append`: an identifier ends at the first character that cannot belong to it;
* `CommandForm`: a text put together from such parts, with a line feed behind them or not. No text
  can be put together in two ways (`CommandForm.unique`);
* **`matchCommand_recognises`**: the texts of this form are read as command lines, and no others;
* `matchCommand_eq_some`, **`matchCommand_commandLine`**: what reading a command line gives, and
  that it gives the parts of a line that was put together;
* `Statement.ofLine_eq_some_iff`: a line is a statement when it is a command line and no comment;
* `Script.mem_parse_iff`: the statements of a script come from its lines.
-/

namespace Dialogue

open Text

/-! ## Identifiers -/

namespace Text

theorem toNat_wideBlank : ∀ c ∈ wideBlanks, 128 ≤ c.toNat := by simp [wideBlanks]

/-- The characters of identifiers are ASCII, and none of the first 48. -/
theorem range_of_isNameChar {c : Char} (h : isNameChar c = true) : 48 ≤ c.toNat ∧ c.toNat < 128 := by
  delta isNameChar Char.isAlphanum Char.isAlpha Char.isUpper Char.isLower Char.isDigit at h
  simp only [Bool.or_eq_true, Bool.and_eq_true, decide_eq_true_eq, UInt32.le_iff_toNat_le,
    ge_iff_le] at h
  change (((65 ≤ c.toNat ∧ c.toNat ≤ 90) ∨ (97 ≤ c.toNat ∧ c.toNat ≤ 122)) ∨
    (48 ≤ c.toNat ∧ c.toNat ≤ 57)) ∨ c = '_' at h
  rcases h with ((h | h) | h) | rfl
  · omega
  · omega
  · omega
  · decide

theorem isBlank_of_isNameChar {c : Char} (h : isNameChar c = true) : isBlank c = false := by
  have hrange := range_of_isNameChar h
  have hwide : c ∉ wideBlanks := fun hc => by
    have := toNat_wideBlank c hc
    omega
  have hspace : c ≠ ' ' := by
    rintro rfl
    exact absurd hrange.1 (by decide)
  simp only [isBlank, Bool.or_eq_false_iff, Bool.and_eq_false_iff, decide_eq_false_iff_not,
    List.contains_eq_mem]
  exact ⟨⟨⟨hspace, .inr (by omega)⟩, .inr (by omega)⟩, hwide⟩

theorem isNameChar_of_mem {name : Text} (h : isIdentifier name = true) :
    ∀ c ∈ name, isNameChar c = true := by
  cases name with
  | nil => cases h
  | cons d r =>
    simp only [isIdentifier, Bool.and_eq_true, List.all_eq_true] at h
    exact List.forall_mem_cons.mpr ⟨isNameChar_of_isNameStart h.1, h.2⟩

theorem not_mem_of_isIdentifier {name : Text} (h : isIdentifier name = true) {c : Char}
    (hc : isNameChar c = false) : c ∉ name := by
  intro hmem
  rw [isNameChar_of_mem h c hmem] at hc
  cases hc

/-- A run of characters of a class ends at the first one outside it. -/
theorem takeWhile_append_cons {p : Char → Bool} {s : Text} (hs : ∀ c ∈ s, p c = true) {d : Char}
    (hd : p d = false) (t : Text) : (s ++ d :: t).takeWhile p = s := by
  rw [List.takeWhile_append_of_pos hs, List.takeWhile_cons_of_neg (by simp [hd]), List.append_nil]

/-- **An identifier ends at the first character that cannot belong to it.** -/
theorem leadingName_append {name : Text} (h : isIdentifier name = true) {c : Char}
    (hc : isNameChar c = false) (t : Text) : leadingName (name ++ c :: t) = name := by
  cases name with
  | nil => cases h
  | cons d r =>
    simp only [isIdentifier, Bool.and_eq_true, List.all_eq_true] at h
    rw [List.cons_append, leadingName, if_pos h.1, takeWhile_append_cons h.2 hc]

theorem leadingName_isPrefix (t : Text) : leadingName t <+: t := by
  cases t with
  | nil => exact List.nil_prefix
  | cons c r =>
    rw [leadingName]
    split_ifs
    · exact List.cons_prefix_cons.mpr ⟨rfl, List.takeWhile_prefix _⟩
    · exact List.nil_prefix

theorem isIdentifier_leadingName {t : Text} (h : leadingName t ≠ []) :
    isIdentifier (leadingName t) = true := by
  cases t with
  | nil => exact absurd rfl h
  | cons c r =>
    rw [leadingName] at h ⊢
    split_ifs at h ⊢ with hc
    · simp only [isIdentifier, hc, Bool.true_and, List.all_eq_true]
      exact fun d hd => List.mem_takeWhile_imp hd
    · exact absurd rfl h

end Text

/-! ## Brackets -/

namespace Script

/-- A command line put together from its parts. -/
abbrev commandLine (command content : Text) : Text :=
  command ++ ofString " [" ++ content ++ [']']

/-- **What a bracket holds**: a text without a line feed, up to a closing bracket that nothing but
one line feed may follow. -/
theorem bracketContent?_eq_some_iff {t content : Text} : bracketContent? t = some content ↔
    '\n' ∉ content ∧ ∃ ending, (ending = [] ∨ ending = ['\n']) ∧ t = content ++ ']' :: ending := by
  constructor
  · intro h
    simp only [bracketContent?, Option.ite_none_right_eq_some, Option.some.injEq] at h
    obtain ⟨⟨hlast, hfeed⟩, rfl⟩ := h
    have hinner := List.dropLast_append_getLast? _ hlast
    refine ⟨hfeed, ?_⟩
    by_cases hend : t.getLast? = some '\n'
    · refine ⟨['\n'], .inr rfl, ?_⟩
      calc t = t.dropLast ++ ['\n'] := (List.dropLast_append_getLast? _ hend).symm
        _ = dropFeed t ++ ['\n'] := by rw [dropFeed, if_pos hend]
        _ = (dropFeed t).dropLast ++ [']'] ++ ['\n'] := by rw [hinner]
        _ = (dropFeed t).dropLast ++ [']', '\n'] := List.append_assoc ..
    · refine ⟨[], .inl rfl, ?_⟩
      calc t = dropFeed t := (if_neg hend).symm
        _ = (dropFeed t).dropLast ++ [']'] := hinner.symm
  · rintro ⟨hfeed, ending, rfl | rfl, rfl⟩
    · have hdrop : dropFeed (content ++ [']']) = content ++ [']'] := if_neg (by simp)
      simp [bracketContent?, hdrop, hfeed]
    · have hdrop : dropFeed (content ++ [']', '\n']) = content ++ [']'] := by
        simp [dropFeed, List.dropLast_append_of_ne_nil]
      simp [bracketContent?, hdrop, hfeed]

/-- The parts of a command line: a command, blanks, and in brackets a content without a line feed.
One line feed may follow the closing bracket. -/
structure CommandForm (t command blanks content ending : Text) : Prop where
  text : t = command ++ (blanks ++ '[' :: (content ++ ']' :: ending))
  name : isIdentifier command = true
  blank : Blanks blanks
  feed : '\n' ∉ content
  closed : ending = [] ∨ ending = ['\n']

namespace CommandForm

variable {t command blanks content ending : Text}

/-- **A text of the form is read as its command and its content.** -/
theorem matchCommand_eq (h : CommandForm t command blanks content ending) :
    matchCommand t = some (command, content) := by
  obtain ⟨rfl, hname, hblank, hfeed, hclosed⟩ := h
  have hlead : leadingName (command ++ (blanks ++ '[' :: (content ++ ']' :: ending))) =
      command := by
    cases blanks with
    | nil => exact leadingName_append hname (by decide) _
    | cons d r =>
      refine leadingName_append hname ?_ _
      by_contra hd
      have hplain := isBlank_of_isNameChar (eq_true_of_ne_false hd)
      rw [hblank d List.mem_cons_self] at hplain
      cases hplain
  have hne : command.isEmpty = false := by cases command <;> simp_all [isIdentifier]
  have htrim : trimLeft (blanks ++ '[' :: (content ++ ']' :: ending)) =
      '[' :: (content ++ ']' :: ending) := by
    rw [trimLeft, List.dropWhile_append_of_pos hblank]
    rfl
  have hbracket := bracketContent?_eq_some_iff.mpr ⟨hfeed, ending, hclosed, rfl⟩
  simp [matchCommand, hlead, hne, htrim, hbracket]

/-- **A text that is read as a command and a content is of the form.** -/
theorem exists_of_matchCommand (h : matchCommand t = some (command, content)) :
    ∃ blanks ending, CommandForm t command blanks content ending := by
  rw [matchCommand] at h
  split_ifs at h with hname
  split at h
  · rename_i r htrim
    obtain ⟨u, hu, heq⟩ := Option.map_eq_some_iff.mp h
    obtain ⟨rfl, rfl⟩ := Prod.mk.inj heq
    obtain ⟨hfeed, ending, hclosed, rfl⟩ := bracketContent?_eq_some_iff.mp hu
    obtain ⟨blanks, hblank, hrest⟩ := trimLeft_split (t.drop (leadingName t).length)
    refine ⟨blanks, ending, ?_, isIdentifier_leadingName fun hnil => hname (by simp [hnil]), hblank,
      hfeed, hclosed⟩
    rw [← htrim, ← hrest, List.prefix_iff_eq_append.mp (leadingName_isPrefix t)]
  · cases h

/-- **A text has the form in one way.** -/
theorem unique {command' blanks' content' ending' : Text}
    (h : CommandForm t command blanks content ending)
    (h' : CommandForm t command' blanks' content' ending') :
    command = command' ∧ blanks = blanks' ∧ content = content' ∧ ending = ending' := by
  have hparts := h.matchCommand_eq.symm.trans h'.matchCommand_eq
  obtain ⟨rfl, rfl⟩ := Prod.mk.inj (Option.some.inj hparts)
  have hrest := List.append_cancel_left (h.text.symm.trans h'.text)
  -- the blanks go as far as the opening bracket in both
  have hblanks := congrArg (List.takeWhile isBlank) hrest
  rw [takeWhile_append_cons h.blank (by decide), takeWhile_append_cons h'.blank (by decide)]
    at hblanks
  subst hblanks
  refine ⟨rfl, rfl, rfl, ?_⟩
  simpa using hrest

end CommandForm

theorem matchCommand_eq_some {t command content : Text}
    (h : matchCommand t = some (command, content)) :
    isIdentifier command = true ∧ '\n' ∉ content := by
  obtain ⟨blanks, ending, hform⟩ := CommandForm.exists_of_matchCommand h
  exact ⟨hform.name, hform.feed⟩

/-- **Reading a command line gives the parts it was put together from.** -/
theorem matchCommand_commandLine {command content : Text} (hname : isIdentifier command = true)
    (hfeed : '\n' ∉ content) :
    matchCommand (commandLine command content) = some (command, content) := by
  have hform : CommandForm (commandLine command content) command [' '] content [] :=
    ⟨by simp [commandLine, ofString], hname, by decide, hfeed, .inl rfl⟩
  exact hform.matchCommand_eq

/-- **Exactly the texts of the form are read as command lines, and each in one way.** A text is read
as a command and a content when it is that command, blanks, and the content in brackets, with a line
feed behind them or not; no text can be put together like this in two ways; and a text that cannot
be is not read as a command line. -/
theorem matchCommand_recognises (t : Text) :
    (∀ command content, matchCommand t = some (command, content) ↔
      ∃ blanks ending, CommandForm t command blanks content ending) ∧
    (∀ command blanks content ending command' blanks' content' ending',
      CommandForm t command blanks content ending →
      CommandForm t command' blanks' content' ending' →
      command = command' ∧ blanks = blanks' ∧ content = content' ∧ ending = ending') ∧
    (matchCommand t = none ↔
      ¬ ∃ command blanks content ending, CommandForm t command blanks content ending) := by
  refine ⟨fun command content => ⟨CommandForm.exists_of_matchCommand, ?_⟩,
    fun _ _ _ _ _ _ _ _ h h' => h.unique h', ?_⟩
  · rintro ⟨blanks, ending, h⟩
    exact h.matchCommand_eq
  · constructor
    · rintro hnone ⟨command, blanks, content, ending, h⟩
      rw [h.matchCommand_eq] at hnone
      cases hnone
    · intro hno
      cases hmatch : matchCommand t with
      | none => rfl
      | some parts =>
        obtain ⟨blanks, ending, h⟩ := CommandForm.exists_of_matchCommand hmatch
        exact absurd ⟨_, blanks, _, ending, h⟩ hno

/-- A line with several kinds of blanks before the bracket, brackets in it and a line feed behind. -/
def nested : Text := ofString "Go_2\t\n [a [b]] ]\n"

theorem matchCommand_recognises_nested :
    CommandForm nested (ofString "Go_2") (ofString "\t\n ") (ofString "a [b]] ") ['\n'] ∧
    matchCommand nested = some (ofString "Go_2", ofString "a [b]] ") ∧
    ∀ command blanks content ending, CommandForm nested command blanks content ending →
      blanks = ofString "\t\n " := by
  have hform : CommandForm nested (ofString "Go_2") (ofString "\t\n ") (ofString "a [b]] ")
      ['\n'] :=
    ⟨by decide, by decide, by decide, by decide, .inr rfl⟩
  refine ⟨hform, ((matchCommand_recognises nested).1 _ _).mpr ⟨_, _, hform⟩, ?_⟩
  intro command blanks content ending h
  exact ((matchCommand_recognises nested).2.1 _ _ _ _ _ _ _ _ h hform).2.1

theorem commandLine_trimmed {command : Text} (hname : isIdentifier command = true)
    (content : Text) : Trimmed (commandLine command content) where
  head c h := by
    cases command with
    | nil => cases hname
    | cons d r =>
      simp only [isIdentifier, Bool.and_eq_true] at hname
      obtain rfl := Option.some.inj h
      exact isBlank_of_isNameChar (isNameChar_of_isNameStart hname.1)
  last c h := by
    rw [List.getLast?_append] at h
    obtain rfl := Option.some.inj h
    decide

theorem feed_not_mem_commandLine {command content : Text} (hname : isIdentifier command = true)
    (hfeed : '\n' ∉ content) : '\n' ∉ commandLine command content := by
  have hcommand : '\n' ∉ command := not_mem_of_isIdentifier hname (by decide)
  simp [commandLine, ofString, hcommand, hfeed]

/-- What begins as an identifier does is not a comment. -/
theorem isSkippable_of_isNameStart {d : Char} (h : isNameStart d = true) (r : Text) :
    isSkippable defaultMarks (d :: r) = false := by
  have hhash : d ≠ '#' := by rintro rfl; exact absurd h (by decide)
  have hslash : d ≠ '/' := by rintro rfl; exact absurd h (by decide)
  simp [isSkippable, defaultMarks, ofString, List.isPrefixOf, Ne.symm hhash, Ne.symm hslash]

theorem isSkippable_commandLine {command : Text} (hname : isIdentifier command = true)
    (content : Text) : isSkippable defaultMarks (commandLine command content) = false := by
  cases command with
  | nil => cases hname
  | cons d r =>
    simp only [isIdentifier, Bool.and_eq_true] at hname
    exact isSkippable_of_isNameStart hname.1 _

/-- **A command line is neither blank nor a comment.** -/
theorem isSkippable_of_matchCommand {t : Text} (h : (matchCommand t).isSome) :
    isSkippable defaultMarks t = false := by
  cases t with
  | nil => cases h
  | cons d r =>
    have hstart : isNameStart d = true := by
      by_contra hd
      rw [matchCommand, leadingName, if_neg hd] at h
      cases h
    exact isSkippable_of_isNameStart hstart r

end Script

/-! ## Lines -/

theorem Statement.ofLine_eq_some_iff {marks : List Text} {line : Int} {raw : Text}
    {s : Statement} : ofLine marks line raw = some s ↔
      Script.isSkippable marks (trim raw) = false ∧
        ∃ command content, Script.matchCommand (trim raw) = some (command, content) ∧
          s = { command, params := (Script.splitParams content).map Param.ofToken, line, raw } := by
  rw [ofLine]
  split_ifs with hskip
  · simp [hskip]
  · simp only [hskip, Option.map_eq_some_iff, Prod.exists, true_and]
    refine exists_congr fun command => exists_congr fun content => and_congr_right fun _ => ?_
    exact eq_comm

/-! ## Scripts -/

namespace Script

/-- The statements of numbered lines are those of the single lines. -/
theorem mem_parseLines_iff {marks : List Text} {first : Nat} {lines : List Text} {s : Statement} :
    s ∈ parseLines marks first lines ↔
      ∃ i raw, lines[i]? = some raw ∧ Statement.ofLine marks ↑(first + i) raw = some s := by
  induction lines generalizing first with
  | nil => simp [parseLines]
  | cons raw rest ih =>
    rw [parseLines, List.mem_append, Option.mem_toList, ih]
    constructor
    · rintro (h | ⟨i, raw', hraw, h⟩)
      · exact ⟨0, raw, rfl, h⟩
      · exact ⟨i + 1, raw', hraw, by rwa [show first + (i + 1) = first + 1 + i by omega]⟩
    · rintro ⟨i, raw', hraw, h⟩
      cases i with
      | zero =>
        obtain rfl := Option.some.inj hraw
        exact .inl h
      | succ i => exact .inr ⟨i, raw', hraw, by rwa [show first + 1 + i = first + (i + 1) by omega]⟩

/-- **The statements of a script are those of its lines.** -/
theorem mem_parse_iff {marks : List Text} {source : Text} {s : Statement} :
    s ∈ parse marks source ↔
      ∃ (i : Nat) (raw : Text), (splitLines source)[i]? = some raw ∧
        Statement.ofLine marks i raw = some s := by
  simp [parse, mem_parseLines_iff]

end Script

end Dialogue
