import Dialogue.Decimal.Reading
import Dialogue.Json.Basic
import Dialogue.Table
import Dialogue.Text.Numeral

/-!
# Reading JSON

A document is one value with blanks around it. Beyond the standard, `NaN`, `Infinity` and
`-Infinity` are numbers; of two members with the same name the later value counts. Lists and objects
may be nested up to a depth. Half a surrogate pair on its own is kept.

* `JsonError`: a text is no JSON, has a whole number that is too long, or is nested too deep;
* `readString`, `readNumber`: the tokens;
* `Json.read`: a whole document.
-/

namespace Dialogue

open Text

/-- The values that others are nested in. -/
inductive JsonContainer where
  | list
  | object
  deriving DecidableEq, Repr

/-- The container's name. -/
def JsonContainer.name : JsonContainer → Text
  | list => ofString "array"
  | object => ofString "object"

/-- Why a text is refused. -/
inductive JsonError where
  | malformed
  | tooLong (e : TooManyDigits)
  /-- The container at which the text is nested too deep. -/
  | tooDeep (c : JsonContainer)
  deriving DecidableEq, Repr

/-- The wording for a container that is nested too deep. -/
def JsonContainer.tooDeepMessage (c : JsonContainer) : Text :=
  ofString "maximum recursion depth exceeded while decoding a JSON " ++ c.name ++
    ofString " from a unicode string"

namespace Json

/-- The characters that may stand between tokens. -/
def isSpace (c : Char) : Bool := c = ' ' || c = '\t' || c = '\n' || c = '\r'

/-- The text without leading blanks. -/
def skip (t : Text) : Text := t.dropWhile isSpace

/-- The value of a hexadecimal digit. -/
def hexValue? (c : Char) : Option Nat :=
  if '0' ≤ c ∧ c ≤ '9' then some (c.toNat - 48)
  else if 'a' ≤ c ∧ c ≤ 'f' then some (c.toNat - 87)
  else if 'A' ≤ c ∧ c ≤ 'F' then some (c.toNat - 55)
  else none

/-- The value of four hexadecimal digits. -/
def codeUnit? (a b c d : Char) : Option Nat := do
  let a ← hexValue? a
  let b ← hexValue? b
  let c ← hexValue? c
  let d ← hexValue? d
  return ((a * 16 + b) * 16 + c) * 16 + d

/-- The character of an escape other than `\u`. -/
def simpleEscape? (c : Char) : Option Char :=
  if c = '"' ∨ c = '\\' ∨ c = '/' then some c
  else if c = 'n' then some '\n'
  else if c = 'r' then some '\r'
  else if c = 't' then some '\t'
  else if c = 'b' then some '\x08'
  else if c = 'f' then some '\x0c'
  else none

/-- Puts the code unit of an escape in front of what was read after it; the first half of a
surrogate pair joins the other. -/
def joinUnit (n : Nat) : Codes → Codes
  | [] => [n]
  | m :: codes =>
    if 0xd800 ≤ n ∧ n < 0xdc00 ∧ 0xdc00 ≤ m ∧ m < 0xe000 then
      (0x10000 + (n - 0xd800) * 0x400 + (m - 0xdc00)) :: codes
    else n :: m :: codes

/-- What a string holds after an opening quote: its code points, and the text after the closing
quote. -/
structure StringRest where
  codes : Codes
  rest : Text

/-- The string with a character in front. -/
def StringRest.push (s : StringRest) (c : Char) : StringRest :=
  { s with codes := c.toNat :: s.codes }

/-- The string with a code unit in front. -/
def StringRest.pushUnit (s : StringRest) (n : Nat) : StringRest :=
  { s with codes := joinUnit n s.codes }

/-- The string after an opening quote. -/
def readString : Text → Option StringRest
  | [] => none
  | ['"'] => some ⟨[], []⟩
  | [_] => none
  | c :: d :: r =>
    if c = '"' then some ⟨[], d :: r⟩
    else if c = '\\' then
      if d = 'u' then
        match r with
        | h1 :: h2 :: h3 :: h4 :: r' =>
          match codeUnit? h1 h2 h3 h4 with
          | some n => (readString r').map (·.pushUnit n)
          | none => none
        | _ => none
      else match simpleEscape? d with
        | some e => (readString r).map (·.push e)
        | none => none
    else if c.toNat < 0x20 then none
    else (readString (d :: r)).map (·.push c)

/-- The fraction at the start of a text: its digits and the text after them. -/
def readFraction : Text → Text × Text
  | '.' :: r =>
    let digits := r.takeWhile isAsciiDigit
    if digits.isEmpty then ([], '.' :: r) else (digits, r.drop digits.length)
  | t => ([], t)

/-- The exponent at the start of a text, if there is one, and the text after it. -/
def readExponent (t : Text) : Option Int × Text :=
  match t with
  | [] => (none, [])
  | c :: r =>
    if c = 'e' ∨ c = 'E' then
      let (negative, r') := match r with
        | '-' :: r' => (true, r')
        | '+' :: r' => (false, r')
        | _ => (false, r)
      let digits := r'.takeWhile isAsciiDigit
      if digits.isEmpty then (none, t)
      else
        let n : Int := digitsValue digits
        (some (if negative then -n else n), r'.drop digits.length)
    else (none, t)

/-- The number that opens with these digits, and the text after it. -/
def readNumber (negative : Bool) (t : Text) : Except JsonError (Json × Text) :=
  let digits := match t with
    | '0' :: _ => ['0']
    | _ => t.takeWhile isAsciiDigit
  if digits.isEmpty then .error .malformed
  else
    let (fraction, r) := readFraction (t.drop digits.length)
    let (exponent, r') := readExponent r
    if fraction.isEmpty ∧ exponent.isNone then
      match natural digits with
      | .ok n => .ok (.int (if negative then -(n : Int) else n), r')
      | .error e => .error (.tooLong e)
    else
      let m := digitsValue (digits ++ fraction)
      .ok (.real (Decimal.ofDecimal negative m (exponent.getD 0 - fraction.length)), r')

/-- The text after a word that it opens with. -/
def after? (word : String) (t : Text) : Option Text :=
  if word.toList.isPrefixOf t then some (t.drop word.length) else none

/-- A value that is neither a string, a list nor an object. -/
def readScalar (t : Text) : Except JsonError (Json × Text) :=
  match after? "null" t, after? "true" t, after? "false" t, after? "NaN" t, after? "Infinity" t,
      after? "-Infinity" t with
  | some r, _, _, _, _, _ => .ok (.null, r)
  | _, some r, _, _, _, _ => .ok (.bool true, r)
  | _, _, some r, _, _, _ => .ok (.bool false, r)
  | _, _, _, some r, _, _ => .ok (.real (0.0 / 0.0), r)
  | _, _, _, _, some r, _ => .ok (.real (1.0 / 0.0), r)
  | _, _, _, _, _, some r => .ok (.real (-1.0 / 0.0), r)
  | _, _, _, _, _, _ =>
    match t with
    | '-' :: r => readNumber true r
    | _ => readNumber false t

/-- How deep lists and objects may be nested. -/
def maxDepth : Nat := 990

mutual

/-- The value at the start of a text, in which lists and objects are nested no deeper than `depth`,
and the text after it. -/
def readValue (depth : Nat) : Nat → Text → Except JsonError (Json × Text)
  | 0, _ => .error .malformed
  | fuel + 1, t =>
    match t with
    | [] => .error .malformed
    | c :: r =>
      if c = '"' then
        match readString r with
        | some s => .ok (ofCodes s.codes, s.rest)
        | none => .error .malformed
      else if c = '[' then
        match depth with
        | 0 => .error (.tooDeep .list)
        | depth + 1 =>
          let r' := skip r
          if r'.head? = some ']' then .ok (.list [], r'.drop 1)
          else (readItems depth fuel r').map fun (items, rest) => (.list items, rest)
      else if c = '\x7b' then
        match depth with
        | 0 => .error (.tooDeep .object)
        | depth + 1 =>
          let r' := skip r
          if r'.head? = some '\x7d' then .ok (.object [], r'.drop 1)
          else (readMembers depth fuel r').map fun (members, rest) =>
            (.object (members.foldl (fun (t : Table Json Codes) m => t.put m.1 m.2) []), rest)
      else readScalar t

/-- The items up to the end of a list, and the text after it. -/
def readItems (depth : Nat) : Nat → Text → Except JsonError (List Json × Text)
  | 0, _ => .error .malformed
  | fuel + 1, t =>
    match readValue depth fuel t with
    | .error e => .error e
    | .ok (v, r) =>
      match skip r with
      | [] => .error .malformed
      | c :: r' =>
        if c = ']' then .ok ([v], r')
        else if c = ',' then
          (readItems depth fuel (skip r')).map fun (vs, rest) => (v :: vs, rest)
        else .error .malformed

/-- The members up to the end of an object, and the text after it. -/
def readMembers (depth : Nat) : Nat → Text → Except JsonError (List (Codes × Json) × Text)
  | 0, _ => .error .malformed
  | fuel + 1, t =>
    match t with
    | [] => .error .malformed
    | q :: r =>
      if q ≠ '"' then .error .malformed
      else match readString r with
        | none => .error .malformed
        | some key =>
          match skip key.rest with
          | [] => .error .malformed
          | colon :: r2 =>
            if colon ≠ ':' then .error .malformed
            else match readValue depth fuel (skip r2) with
              | .error e => .error e
              | .ok (v, r3) =>
                match skip r3 with
                | [] => .error .malformed
                | c :: r4 =>
                  let member := (key.codes, v)
                  if c = '\x7d' then .ok ([member], r4)
                  else if c = ',' then
                    (readMembers depth fuel (skip r4)).map fun (ms, rest) => (member :: ms, rest)
                  else .error .malformed

end

/-- The value of a document. -/
def read (t : Text) : Except JsonError Json :=
  match readValue maxDepth (t.length + 1) (skip t) with
  | .error e => .error e
  | .ok (v, r) => if (skip r).isEmpty then .ok v else .error .malformed

end Json

end Dialogue
