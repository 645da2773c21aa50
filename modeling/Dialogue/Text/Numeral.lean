import Dialogue.Text.Blank
import Dialogue.Text.Digit

/-!
# Whole numbers in texts

Whole numbers are read in decimal digits of any writing system and written in ASCII digits. Either is
refused above 4300 digits, leading zeros included, a sign not.

* `TooManyDigits`: the refusal, with the number of digits;
* `natural`, `integer`: the value of digits, and of digits after an optional sign;
* `isInteger`: digits after an optional minus (`INT_RE`);
* `leadingInteger`: the integer at the start of a trimmed text, zero when there is none
  (`parse_int`);
* `decimal`: an integer in ASCII digits, for numbers that count something;
* `limitedDecimal`: any integer in ASCII digits, unless they are too many.
-/

namespace Dialogue.Text

/-- A number was refused for its length. -/
structure TooManyDigits where
  digits : Nat
  /-- Whether the number was to be written. It was to be read otherwise. -/
  writing : Bool := false
  deriving DecidableEq, Repr

/-- The most digits a number may have. -/
def maxDigits : Nat := 4300

/-- The wording of the refusal. It tells the digits of a number that was to be read. -/
def TooManyDigits.message (e : TooManyDigits) : Text :=
  ofString "Exceeds the limit (" ++ Nat.toDigits 10 maxDigits ++
    ofString " digits) for integer string conversion" ++
    (if e.writing then []
      else ofString ": value has " ++ Nat.toDigits 10 e.digits ++ ofString " digits") ++
    ofString "; use sys.set_int_max_str_digits() to increase the limit"

/-- The value of a row of digits, the most significant one first. -/
def digitsValue (t : Text) : Nat :=
  t.foldl (fun n c => 10 * n + (digitValue? c).getD 0) 0

/-- The number a row of digits stands for. -/
def natural (digits : Text) : Except TooManyDigits Nat :=
  if maxDigits < digits.length then .error { digits := digits.length }
  else .ok (digitsValue digits)

/-- The number that digits after an optional sign stand for. -/
def integer : Text → Except TooManyDigits Int
  | '-' :: digits => (natural digits).map fun n => -(n : Int)
  | '+' :: digits => (natural digits).map Int.ofNat
  | digits => (natural digits).map Int.ofNat

/-- Whether the text is one digit or more. -/
def isDigits (t : Text) : Bool := !t.isEmpty && t.all isDigit

/-- Whether the text is a row of digits after an optional minus. -/
def isInteger : Text → Bool
  | '-' :: digits => isDigits digits
  | digits => isDigits digits

/-- The number that the longest row of digits at the start of the trimmed text stands for, with an
optional sign before it; zero when there is no digit. -/
def leadingInteger (t : Text) : Except TooManyDigits Int :=
  match trim t with
  | '-' :: r => (natural (r.takeWhile isDigit)).map fun n => -(n : Int)
  | '+' :: r => (natural (r.takeWhile isDigit)).map Int.ofNat
  | r => (natural (r.takeWhile isDigit)).map Int.ofNat

/-- An integer in ASCII digits, with a minus when it is negative. -/
def decimal (i : Int) : Text :=
  if i < 0 then '-' :: Nat.toDigits 10 i.natAbs else Nat.toDigits 10 i.natAbs

/-- An integer in ASCII digits, unless they are too many. -/
def limitedDecimal (i : Int) : Except TooManyDigits Text :=
  let digits := (Nat.toDigits 10 i.natAbs).length
  if maxDigits < digits then .error { digits, writing := true } else .ok (decimal i)

end Dialogue.Text
