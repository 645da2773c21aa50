import Dialogue.Text.Basic

/-!
# Paths

A path is written as names between slashes. A single dot says nothing, two dots lead back to the
folder around. Of two spellings that differ in single dots or repeated slashes only, the plain one
stands for both; two dots stay in it, since they lead back only from a folder that is there.

* `Path.normal`: the plain spelling; `Path.name`, `Path.stages`: parts of it;
* `Path.place`: where a path leads when every folder on its way is there;
* `Path.isTooLong`, `isNameTooLong`, `hasNull`: what no file can be called.

`place_of_plain` says that a path without two dots leads to its plain spelling.
-/

namespace Dialogue.Path

open Text

/-- The name that leads back. -/
def back : Text := ['.', '.']

/-- The components of a path that say something. -/
def components (path : Text) : List Text :=
  (path.splitOn '/').filter fun c => !c.isEmpty && c ≠ ['.']

/-- What a path begins with: nothing, or the root. Two slashes are a root of their own. -/
def root : Text → Text
  | '/' :: '/' :: '/' :: _ => ['/']
  | '/' :: '/' :: _ => ['/', '/']
  | '/' :: _ => ['/']
  | _ => []

/-- A path with a root and components. -/
def build (root : Text) (components : List Text) : Text :=
  let path := root ++ joinWith ['/'] components
  if path.isEmpty then ['.'] else path

/-- The plain spelling of a path. -/
def normal (path : Text) : Text := build (root path) (components path)

/-- The last component of a path. -/
def name (path : Text) : Text := (components path).getLast?.getD []

/-- The path cut after each of its components, the whole one first. -/
def stages (path : Text) : List Text :=
  let cs := components path
  (List.range cs.length).reverse.map fun n => build (root path) (cs.take (n + 1))

/-! ## Places -/

/-- Where one more component leads from the folder that names, the innermost first, lead to. At the
root there is no way back. -/
def step (root : Text) (names : List Text) (c : Text) : List Text :=
  if c ≠ back then c :: names
  else match names with
    | [] => if root.isEmpty then [c] else []
    | n :: outer => if n = back then c :: names else outer

/-- The place that names, the innermost first, lead to. Both spellings of the root are one place. -/
def placeOf (root : Text) (names : List Text) : Text := build (root.take 1) names.reverse

/-- Where a path leads when every folder on its way is there. -/
def place (path : Text) : Text :=
  placeOf (root path) ((components path).foldl (step (root path)) [])

/-- Whether a place holds the folder that relative paths start from, or is that folder. -/
def isAround (place : Text) : Bool := (components place).all (· = back)

theorem foldl_step_of_plain (root : Text) (cs names : List Text) (h : back ∉ cs) :
    cs.foldl (step root) names = cs.reverse ++ names := by
  induction cs generalizing names with
  | nil => rfl
  | cons c cs ih =>
    have hc : c ≠ back := fun e => h (by simp [e])
    rw [List.foldl_cons, ih _ fun hm => h (List.mem_cons_of_mem _ hm)]
    simp [step, hc]

/-- **A path without two dots leads to its plain spelling**, the root being written once. -/
theorem place_of_plain (path : Text) (h : back ∉ components path) :
    place path = build ((root path).take 1) (components path) := by
  simp [place, placeOf, foldl_step_of_plain _ _ _ h]

/-! ## What no file can be called -/

/-- How many bytes a text takes in UTF-8. -/
def size (t : Text) : Nat := (String.ofList t).utf8ByteSize

/-- The most bytes of a name. -/
def maxNameSize : Nat := 255

/-- The most bytes of a path. -/
def maxSize : Nat := 4095

/-- Whether no file can have the name. -/
def isNameTooLong (name : Text) : Bool := maxNameSize < size name

/-- Whether the path is too long to be followed at all. -/
def isTooLong (path : Text) : Bool := maxSize < size path

/-- Whether the path has a null character, which ends a path wherever it stands. -/
def hasNull (path : Text) : Bool := path.contains '\x00'

end Dialogue.Path
