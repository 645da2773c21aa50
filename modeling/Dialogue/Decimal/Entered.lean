import Dialogue.Decimal.Reading
import Dialogue.Text.Case
import Dialogue.Text.Blank
import Dialogue.Text.Numeral

/-!
# Numbers as they are entered

A number that a person enters, in a setting, an option or at a prompt, may have white space around
it or single underscores between its digits; a whole number may have both. A whole number may have
leading zeros and a fraction of zeros; any other number may have a fraction, an exponent, or be
infinite or no number at all.

* `enteredInteger`: the whole number of a text, or why there is none;
* `enteredReal?`: the double of a text.
-/

namespace Dialogue.Decimal

open Text

/-- Why a text is no whole number. -/
inductive EntryError where
  | unreadable
  | tooLong
  deriving DecidableEq, Repr

/-- The wording of the refusal. -/
def EntryError.message : EntryError → Text
  | unreadable =>
    ofString "Input should be a valid integer, unable to parse string as an integer"
  | tooLong => ofString "Unable to parse input string as an integer, exceeded maximum size"

/-- Whether a character is white space; the information separators are not. -/
def isSpace (c : Char) : Bool := isBlank c && !(0x1c ≤ c.toNat && c.toNat ≤ 0x1f)

/-- The text without white space at either end. -/
def trimSpace (t : Text) : Text :=
  ((t.dropWhile isSpace).reverse.dropWhile isSpace).reverse

/-- The text without its underscores, if each of them has a neighbour on both sides that is none. -/
def withoutUnderscores : Text → Option Text
  | [] => some []
  | '_' :: _ => none
  | [c] => some [c]
  | c :: '_' :: d :: r => if d = '_' then none else (withoutUnderscores (d :: r)).map (c :: ·)
  | c :: d :: r => (withoutUnderscores (d :: r)).map (c :: ·)

/-- The text without the zeros before its first other digit or minus, underscores between them
included. One zero is kept before a point and at the end. -/
def withoutZeros (last : Char) : Text → Option Text
  | [] => some [last]
  | c :: r =>
    if c = '0' ∨ c = '_' then withoutZeros c r
    else if ('1' ≤ c ∧ c ≤ '9') ∨ c = '-' then some (c :: r)
    else if c = '.' then some (last :: c :: r)
    else none

/-- The text without leading zeros, if it begins with a digit. -/
def unpadded : Text → Option Text
  | [] => none
  | c :: r =>
    if c = '0' then withoutZeros '0' r
    else if '1' ≤ c ∧ c ≤ '9' then some (c :: r)
    else none

/-- The text without the zeros that follow its minus, or that it begins with. -/
def significant : Text → Option Text
  | '-' :: r => (unpadded r).map ('-' :: ·)
  | t => unpadded t

/-- The text without a fraction of zeros, of which there is one at least. -/
def withoutFraction (t : Text) : Text :=
  let whole := t.takeWhile (· ≠ '.')
  match t.drop (whole.length + 1) with
  | [] => t
  | fraction => if fraction.all (· = '0') then whole else t

/-- The text without a leading plus, unless a minus follows it. -/
def withoutPlus : Text → Option Text
  | '+' :: r => if r.head? = some '-' then none else some r
  | t => some t

/-- The number of a row of at most 4300 digits without leading zeros, after a minus or not. -/
def plainInteger? (t : Text) : Option Int :=
  let (negative, digits) := match t with
    | '-' :: r => (true, r)
    | _ => (false, t)
  if digits.isEmpty ∨ !digits.all isAsciiDigit then none
  else if digits.head? = some '0' ∧ digits ≠ ['0'] then none
  else if maxDigits < digits.length then none
  else some (if negative then -(digitsValue digits : Int) else digitsValue digits)

/-- Whether the text begins, after a minus or not, with a number of more than 4300 digits. -/
def beginsTooLong (t : Text) : Bool :=
  let digits := match t with
    | '-' :: r => r
    | _ => t
  digits.head? ≠ some '0' && decide (maxDigits < (digits.takeWhile isAsciiDigit).length)

/-- The whole number that a text stands for. Of a text that begins with too many digits nothing
more is read; where something precedes the digits, too many of them are no number. -/
def enteredInteger (t : Text) : Except EntryError Int :=
  if beginsTooLong t then .error .tooLong
  else
    let plain := do
      let digits := withoutFraction (← withoutPlus (trimSpace t) >>= significant)
      plainInteger? ((withoutUnderscores digits).getD digits)
    match plain with
    | some n => .ok n
    | none => .error .unreadable

/-- The exponent that a text is, without a mark. -/
def exponent? (t : Text) : Option Int :=
  let (negative, digits) := match t with
    | '-' :: r => (true, r)
    | '+' :: r => (false, r)
    | _ => (false, t)
  if digits.isEmpty ∨ !digits.all isAsciiDigit then none
  else some (if negative then -(digitsValue digits : Int) else digitsValue digits)

/-- The double of a text without a sign. -/
def plainReal? (negative : Bool) (t : Text) : Option Float :=
  let word := lower t
  if word = ofString "inf" ∨ word = ofString "infinity" then
    some (if negative then -1.0 / 0.0 else 1.0 / 0.0)
  else if word = ofString "nan" then some (0.0 / 0.0)
  else
    let mantissa := t.takeWhile fun c => c ≠ 'e' && c ≠ 'E'
    let whole := mantissa.takeWhile (· ≠ '.')
    let fraction := mantissa.drop (whole.length + 1)
    let digits := whole ++ fraction
    let e? :=
      if mantissa.length = t.length then some 0 else exponent? (t.drop (mantissa.length + 1))
    if digits.isEmpty ∨ !digits.all isAsciiDigit then none
    else e?.map fun e => ofDecimal negative (digitsValue digits) (e - fraction.length)

/-- The double of a text with an optional sign. -/
def signedReal? : Text → Option Float
  | '-' :: r => plainReal? true r
  | '+' :: r => plainReal? false r
  | t => plainReal? false t

/-- The double that a text stands for. One with underscores has no white space around it. -/
def enteredReal? (t : Text) : Option Float :=
  (signedReal? (trimSpace t)).orElse fun _ => withoutUnderscores t >>= signedReal?

end Dialogue.Decimal
