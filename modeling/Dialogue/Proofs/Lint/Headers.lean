import Dialogue.Lint.Facts
import Mathlib.Tactic.Common

/-!
# What the headers of a script say

A header is a line with the command `Meta`. Its tokens name the game and the release that the script
is written for. Of several values given for one of the two the last one counts, wherever it stands.

* `fieldOf?`, `headerValues`, `valuesOf`: the values given for a field, in order;
* `Facts.Follows`: a part of what is known that follows the values of one field and is touched by
  nothing else, as game and release are (`Facts.follows_game`, `Facts.follows_version`);
* **`Facts.Follows.collectFacts_eq`**: in the end it is the last value that the script gives.
-/

namespace Dialogue.Lint

open Text Script

variable {marks lines : List Text} {field raw source : Text} {get : Facts → Option Text}

/-! ## Values -/

/-- The value that a token gives for a field. -/
def fieldOf? (field token : Text) : Option Text :=
  (splitNamed token).bind fun (name, value) =>
    if name = field then some (stripQuotes value) else none

/-- The values that a line gives for a field, if it is a header. -/
def headerValues (field : Text) (marks : List Text) (raw : Text) : List Text :=
  match commandLine? marks raw with
  | none => []
  | some (command, content) =>
    if lower command = ofString "meta" then (splitParams content).filterMap (fieldOf? field) else []

/-- The values that the headers of a script give for a field, in order. -/
def valuesOf (field : Text) (marks : List Text) (source : Text) : List Text :=
  (splitLines source).flatMap (headerValues field marks)

theorem ofKey?_eq_header_iff {key : Text} :
    Verb.ofKey? key = some .header ↔ key = ofString "meta" := by
  constructor
  · intro h
    have hmem := Table.mem_of_get? h
    simpa [Verb.names] using hmem
  · rintro rfl
    rfl

/-! ## The first reading -/

namespace Facts

/-- The part follows the values of the field: a token that gives one replaces it, any other token
and a declaration leave it alone. -/
structure Follows (get : Facts → Option Text) (field : Text) : Prop where
  fresh : get {} = none
  addHeader : ∀ f token, get (f.addHeader token) = (fieldOf? field token).or (get f)
  declare : ∀ f type command name index raw, get (f.declare type command name index raw) = get f

theorem declare_headers (f : Facts) (type : ParamType) (command name : Text) (index : Nat)
    (raw : Text) : (f.declare type command name index raw).game = f.game ∧
      (f.declare type command name index raw).version = f.version := by
  unfold declare
  split
  · exact ⟨rfl, rfl⟩
  · split_ifs <;> exact ⟨rfl, rfl⟩

theorem follows_game : Follows game (ofString "game") where
  fresh := rfl
  addHeader f token := by
    unfold addHeader fieldOf?
    cases splitNamed token with
    | none => rfl
    | some parts =>
      simp only [Option.bind_some]
      split_ifs <;> rfl
  declare f type command name index raw := (declare_headers f type command name index raw).1

theorem follows_version : Follows version (ofString "version") where
  fresh := rfl
  addHeader f token := by
    unfold addHeader fieldOf?
    cases splitNamed token with
    | none => rfl
    | some parts =>
      have hfields : ofString "game" ≠ ofString "version" := by simp [ofString]
      simp only [Option.bind_some]
      split_ifs with hgame hversion
      · exact absurd (hgame.symm.trans hversion) hfields
      · rfl
      · rfl
      · rfl
  declare f type command name index raw := (declare_headers f type command name index raw).2

/-- The value that is there after values are given in turn is the last of them. -/
theorem Follows.foldl_addHeader (h : Follows get field) (tokens : List Text) (f : Facts) :
    get (tokens.foldl Facts.addHeader f) =
      (tokens.filterMap (fieldOf? field)).getLast?.or (get f) := by
  induction tokens generalizing f with
  | nil => rfl
  | cons t ts ih =>
    rw [List.foldl_cons, ih, h.addHeader, List.filterMap_cons]
    cases fieldOf? field t with
    | none => rfl
    | some v =>
      simp only [List.getLast?_cons, Option.some_or]
      cases (ts.filterMap (fieldOf? field)).getLast? <;> rfl

theorem Follows.addLine (h : Follows get field) (marks : List Text) (f : Facts) (index : Nat)
    (raw : Text) : get (f.addLine marks index raw) =
      (headerValues field marks raw).getLast?.or (get f) := by
  unfold Facts.addLine headerValues
  cases commandLine? marks raw with
  | none => rfl
  | some parts =>
    obtain ⟨command, content⟩ := parts
    simp only
    by_cases hmeta : lower command = ofString "meta"
    · rw [if_pos hmeta, ofKey?_eq_header_iff.mpr hmeta]
      exact h.foldl_addHeader (splitParams content) f
    · rw [if_neg hmeta]
      split
      · rfl
      · rename_i hheader
        exact absurd (ofKey?_eq_header_iff.mp hheader) hmeta
      · split
        · exact h.declare f _ _ _ _ _
        · rfl

theorem Follows.addLines (h : Follows get field) (marks : List Text) (lines : List Text) (f : Facts)
    (first : Nat) : get (f.addLines marks first lines) =
      (lines.flatMap (headerValues field marks)).getLast?.or (get f) := by
  induction lines generalizing f first with
  | nil => rfl
  | cons raw rest ih =>
    rw [Facts.addLines, ih, h.addLine, List.flatMap_cons, List.getLast?_append, Option.or_assoc]

/-- **Of the values that the headers of a script give the last one counts.** -/
theorem Follows.collectFacts_eq (h : Follows get field) (marks : List Text) (source : Text) :
    get (collectFacts marks source) = (valuesOf field marks source).getLast? := by
  rw [collectFacts, h.addLines, h.fresh, Option.or_none]
  rfl

end Facts

end Dialogue.Lint
