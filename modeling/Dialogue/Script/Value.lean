import Dialogue.Script.Quoting
import Dialogue.Text.Blank
import Dialogue.Text.Case
import Dialogue.Text.Identifier
import Dialogue.Text.Numeral

/-!
# Values of parameters

A parameter is written as a variable reference `$name`, a quoted string, an interpolated string
`$"…"` whose placeholders `{name}` stand for variables, an integer, a truth value, or else a bare
text.

* `referenceName?` (`VAR_REF_RE`), `isBoolWord` (`BOOL_RE`): the forms that have a rule of their
  own;
* `Value.ofToken` (`classify_value`): the value a token is written for;
* `Chunk`, `chunks` (`PLACEHOLDER_RE`): an interpolated text cut into characters and placeholders,
  in one pass;
* `placeholders`, `interpolate`: the names of the placeholders, and the text with each replaced.
-/

namespace Dialogue

open Text Script

/-- What a parameter is written as. -/
inductive Value where
  | reference (name : Text)
  | text (t : Text) (interpolated : Bool)
  | int (i : Int)
  | bool (b : Bool)
  deriving DecidableEq, Repr

namespace Script

/-- The name of a variable reference. -/
def referenceName? : Text → Option Text
  | [] => none
  | c :: name => if c = '$' ∧ isIdentifier name then some name else none

/-- Whether a character is a spelling of a lower-case letter; the long `ſ` is one of `s`. -/
def spellsLetter (letter c : Char) : Bool := c.toLower = letter || (letter = 's' && c = 'ſ')

/-- Whether the text spells the word in any case. -/
def spells : Text → Text → Bool
  | [], [] => true
  | letter :: word, c :: t => spellsLetter letter c && spells word t
  | _, _ => false

/-- Whether the text is a truth value. -/
def isBoolWord (t : Text) : Bool := spells (ofString "true") t || spells (ofString "false") t

/-- The truth value a text stands for: only `true`, in any case, is true. -/
def truth (t : Text) : Bool := lower t = ofString "true"

end Script

/-- The value a token is written for. -/
def Value.ofToken (raw : Text) : Except TooManyDigits Value :=
  let t := trim raw
  match referenceName? t, interpolatedBody? t, quotedBody? t with
  | some name, _, _ => .ok (.reference name)
  | none, some body, _ => .ok (.text (unescape body) true)
  | none, none, some body => .ok (.text (unescape body) false)
  | none, none, none =>
    if isInteger t then (integer t).map .int
    else if isBoolWord t then .ok (.bool (truth t))
    else .ok (.text t false)

namespace Script

/-! ## Placeholders -/

/-- A piece of an interpolated text. -/
inductive Chunk where
  | char (c : Char)
  | hole (name : Text)
  deriving DecidableEq, Repr

/-- The name of the placeholder that the text after an opening brace closes. -/
def holeName? (t : Text) : Option Text :=
  let name := leadingName t
  if name.isEmpty then none
  else if (t.drop name.length).head? = some '\x7d' then some name else none

/-- The pieces of the text after its first `skip` characters. -/
def chunksFrom : Nat → Text → List Chunk
  | _, [] => []
  | skip + 1, _ :: r => chunksFrom skip r
  | 0, c :: r =>
    if c = '\x7b' then
      match holeName? r with
      | some name => .hole name :: chunksFrom (name.length + 1) r
      | none => .char c :: chunksFrom 0 r
    else .char c :: chunksFrom 0 r

/-- The pieces of an interpolated text. -/
def chunks (t : Text) : List Chunk := chunksFrom 0 t

/-- The name of a placeholder. -/
def Chunk.name? : Chunk → Option Text
  | .char _ => none
  | .hole name => some name

/-- The names of the placeholders, in order, repetitions included. -/
def placeholders (t : Text) : List Text := (chunks t).filterMap Chunk.name?

/-- What a piece shows when `display` gives the text of each name. -/
def Chunk.fill (display : Text → Except TooManyDigits Text) : Chunk → Except TooManyDigits Text
  | .char c => .ok [c]
  | .hole name => display name

/-- The text with each placeholder replaced; what is put in is not read again. It is refused for the
first name that has no text. -/
def interpolate (display : Text → Except TooManyDigits Text) (t : Text) :
    Except TooManyDigits Text :=
  ((chunks t).mapM (Chunk.fill display)).map List.flatten

end Script

end Dialogue
