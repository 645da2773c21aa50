import Dialogue.Text.Case.Table

/-!
# Lower case, upper case and case folding

Names are compared through their full lower-case mapping, game titles through their full case
folding, and names of levels through their full upper-case mapping, all as the Unicode character
database gives them.

* `lower`: the lower-case mapping. A capital sigma becomes the final form `ς` after a cased
  character when no cased character follows, ignorable characters between them passed over;
* `fold`, `upper`: the case folding and the upper-case mapping, which do not depend on neighbours.
-/

namespace Dialogue.Text

open Case

/-- Whether the character has case. -/
def isCased (c : Char) : Bool := inRuns casedRuns c

/-- Whether the character is passed over in deciding the form of a sigma. -/
def isCaseIgnorable (c : Char) : Bool := inRuns ignorableRuns c

/-- The lower-case mapping of one character on its own. -/
def lowerChar (c : Char) : Text :=
  if c.toNat < 0x80 then [c.toLower]
  else if c = '\u0130' then ['i', '\u0307']
  else match lowerRuns.findSome? (·.image? c.toNat) with
    | some n => [Char.ofNat n]
    | none => [c]

/-- Whether the first character that is not ignorable is cased. -/
def meetsCased (t : Text) : Bool :=
  match t.find? fun c => !isCaseIgnorable c with
  | some c => isCased c
  | none => false

/-- The lower-case mapping of a text that stands after `before`, given in reverse. -/
def lowerAfter (before : Text) : Text → Text
  | [] => []
  | c :: r =>
    (if c = 'Σ' then [if meetsCased before && !meetsCased r then 'ς' else 'σ'] else lowerChar c) ++
      lowerAfter (c :: before) r

/-- The full lower-case mapping of a text. -/
def lower (t : Text) : Text := lowerAfter [] t

/-- The case folding of one character. -/
def foldChar (c : Char) : Text :=
  if c.toNat < 0x80 then [c.toLower]
  else match foldExpansions.lookup c.toNat with
    | some ns => ns.map Char.ofNat
    | none => match foldRuns.findSome? (·.image? c.toNat) with
      | some n => [Char.ofNat n]
      | none => lowerChar c

/-- The full case folding of a text. -/
def fold (t : Text) : Text := t.flatMap foldChar

/-- The upper-case mapping of one character. -/
def upperChar (c : Char) : Text :=
  if c.toNat < 0x80 then [c.toUpper]
  else match upperExpansions.lookup c.toNat with
    | some ns => ns.map Char.ofNat
    | none => match upperRuns.findSome? (·.image? c.toNat) with
      | some n => [Char.ofNat n]
      | none => [c]

/-- The full upper-case mapping of a text. -/
def upper (t : Text) : Text := t.flatMap upperChar

end Dialogue.Text
