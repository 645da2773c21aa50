import Dialogue.Lint.Check
import Dialogue.Proofs.Outcome

/-!
# What the second reading takes from the first

Checking a line, the linter looks up the types of variables, and game and release. The only lines that it
looks at are the declaration lines that it cites. So where two scripts have declared the same, a line
has the same problems in both, but for these lines.

* `Problem.relined`: the problem with another declaration line;
* `Facts.Alike`: two first readings that know the same, up to declaration lines;
* **`checkLine_alike`**: the problems of a line are the same, up to declaration lines.
-/

namespace Dialogue.Lint

open Text Script

variable {f f' : Facts} {g g' : Nat → Nat}

/-- The problem with the declaration line that it may cite changed. -/
def Problem.relined (g : Nat → Nat) : Problem → Problem
  | variableType name declared line param expected =>
    variableType name declared (g line) param expected
  | redeclared name attempted declared line command =>
    redeclared name attempted declared (g line) command
  | x => x

theorem Problem.relined_id : Problem.relined id = id := by
  funext x
  cases x <;> rfl

@[simp] theorem Problem.relined_code (g : Nat → Nat) (x : Problem) : (x.relined g).code = x.code := by
  cases x <;> rfl

@[simp] theorem Problem.relined_severity (g : Nat → Nat) (x : Problem) :
    (x.relined g).severity = x.severity := by
  cases x <;> rfl

/-- The two know the same: each variable with its type and, as `g` and `g'` make of it, its line; and
game and release. -/
structure Facts.Alike (g g' : Nat → Nat) (f f' : Facts) : Prop where
  vars : ∀ name, (f'.vars.get? name).map (fun d => (d.type, g' d.line)) =
    (f.vars.get? name).map fun d => (d.type, g d.line)
  game : f'.game = f.game
  version : f'.version = f.version

/-! ## Parameters -/

theorem Facts.Alike.has (h : f.Alike g g' f') (name : Text) : f'.vars.has name = f.vars.has name := by
  have hisSome := congrArg Option.isSome (h.vars name)
  rw [Option.isSome_map, Option.isSome_map] at hisSome
  exact hisSome

theorem checkPlaceholders_alike (h : f.Alike g g' f') (token : Text) :
    (checkPlaceholders f' token).map (Problem.relined g') =
      (checkPlaceholders f token).map (Problem.relined g) := by
  unfold checkPlaceholders
  simp only [h.has]
  split
  · rw [List.map_map, List.map_map]
    rfl
  · rfl

theorem checkValue_alike (h : f.Alike g g' f') (p : ParamSpec) (place : Place) (token : Text) :
    (checkValue f' p place token).map (Problem.relined g') =
      (checkValue f p place token).map (Problem.relined g) := by
  unfold checkValue
  cases referenceName? token with
  | none =>
    dsimp only
    split
    · exact checkPlaceholders_alike h token
    · rfl
  | some name =>
    dsimp only
    have hname := h.vars name
    cases hold : f.vars.get? name with
    | none =>
      rw [hold, Option.map_none, Option.map_eq_none_iff] at hname
      rw [hname]
      rfl
    | some d =>
      rw [hold] at hname
      obtain ⟨d', hnew, hsame⟩ := Option.map_eq_some_iff.mp hname
      obtain ⟨htype, hline⟩ := Prod.mk.inj hsame
      rw [hnew]
      dsimp only
      rw [htype]
      split
      · rfl
      · simp only [List.map_cons, List.map_nil, Problem.relined, hline]

theorem checkRequired_alike (h : f.Alike g g' f') (command : Text) (ps : List ParamSpec)
    (ts : List Text) : (checkRequired f' command ps ts).map (Problem.relined g') =
      (checkRequired f command ps ts).map (Problem.relined g) := by
  induction ps generalizing ts with
  | nil => rfl
  | cons p ps ih =>
    cases ts with
    | nil => rw [checkRequired, checkRequired, List.map_cons, List.map_cons, ih]; rfl
    | cons t ts =>
      rw [checkRequired, checkRequired, List.map_append, List.map_append, checkValue_alike h, ih]

theorem checkExtras_alike (h : f.Alike g g' f') (c : Contract) (trailing : List ParamSpec)
    (ts : List Text) : (checkExtras f' c trailing ts).map (Problem.relined g') =
      (checkExtras f c trailing ts).map (Problem.relined g) := by
  induction ts generalizing trailing with
  | nil => rfl
  | cons t ts ih =>
    unfold checkExtras
    cases splitNamed t with
    | none =>
      cases trailing with
      | nil => dsimp only; rw [List.map_cons, List.map_cons, ih]; rfl
      | cons p ps =>
        dsimp only
        rw [List.map_append, List.map_append, checkValue_alike h, ih]
    | some named =>
      dsimp only
      cases c.optionalParam? named.1 with
      | none => dsimp only; rw [List.map_cons, List.map_cons, ih]; rfl
      | some p =>
        dsimp only
        rw [List.map_append, List.map_append, checkValue_alike h, ih]

theorem checkParams_alike (h : f.Alike g g' f') (c : Contract) (ts : List Text) :
    (checkParams f' c ts).map (Problem.relined g') =
      (checkParams f c ts).map (Problem.relined g) := by
  unfold checkParams
  rw [List.map_append, List.map_append, checkRequired_alike h, checkExtras_alike h]

/-! ## Release and game -/

theorem checkVersion_alike (h : f.Alike g g' f') (c : Contract) :
    checkVersion f' c = checkVersion f c := by
  unfold checkVersion
  rw [h.version]

theorem checkGame_alike (h : f.Alike g g' f') (catalog : Catalog) (c : Contract) :
    checkGame catalog f' c = checkGame catalog f c := by
  unfold checkGame
  rw [h.game]

/-- A problem with the release cites no line. -/
theorem relined_of_mem_checkVersion {c : Contract} {version : List Problem}
    (hversion : checkVersion f c = .ok version) (g : Nat → Nat) :
    version.map (Problem.relined g) = version := by
  obtain ⟨target, -, h⟩ := bind_eq_ok_iff.mp hversion
  obtain ⟨since, -, h⟩ := bind_eq_ok_iff.mp h
  split at h
  · split at h
    · obtain rfl := pure_eq_ok_iff.mp h
      rfl
    · obtain rfl := pure_eq_ok_iff.mp h
      rfl
  · obtain rfl := pure_eq_ok_iff.mp h
    rfl

/-- A problem with the game cites no line. -/
theorem relined_checkGame (catalog : Catalog) (f : Facts) (c : Contract) (g : Nat → Nat) :
    (checkGame catalog f c).map (Problem.relined g) = checkGame catalog f c := by
  unfold checkGame
  cases f.game with
  | none => rfl
  | some title =>
    dsimp only
    split
    · rfl
    · split <;> rfl

/-! ## Lines -/

/-- **The problems of a line are the same in both**, but for the declaration lines that they cite. -/
theorem checkLine_alike (h : f.Alike g g' f') (catalog : Catalog) (marks : List Text) (raw : Text) :
    (checkLine catalog marks f' raw).map (List.map (Problem.relined g')) =
      (checkLine catalog marks f raw).map (List.map (Problem.relined g)) := by
  unfold checkLine checkCommand
  dsimp only
  split
  · rfl
  · cases matchCommand (trim raw) with
    | none => rfl
    | some parts =>
      dsimp only
      cases catalog.find? parts.1 with
      | none => rfl
      | some c =>
        dsimp only
        rw [checkVersion_alike h, checkGame_alike h]
        cases hversion : checkVersion f c with
        | error e => rfl
        | ok version =>
          refine congrArg Except.ok ?_
          rw [List.map_append, List.map_append, List.map_append, List.map_append,
            relined_of_mem_checkVersion hversion, relined_of_mem_checkVersion hversion,
            relined_checkGame, relined_checkGame, checkParams_alike h]

end Dialogue.Lint
