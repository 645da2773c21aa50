import Dialogue.Decimal.Reading
import Dialogue.Text.Numeral

/-!
# Shortest decimal text of a double

A double is written in the fewest decimal digits that read back as the same double, and of those
the nearest to it. Numbers from 0.0001 up to below 10^16 are written positionally, always with a
fraction, all others with an exponent of at least two digits.

* `whole?`: the double as a whole number;
* `digitsOf`: the digits and the exponent of the shortest decimal;
* `showFloat`: the text.
-/

namespace Dialogue.Decimal

open Text

/-- The value of a finite positive bit pattern as a fraction. -/
def fractionOf (bits : Nat) : Nat × Nat :=
  let field := bits / twoTo 52
  let m := if field = 0 then bits else bits % twoTo 52 + twoTo 52
  let e : Int := (if field = 0 then 1 else field : Nat) - 1075
  if e < 0 then (m, twoTo e.natAbs) else (m * twoTo e.toNat, 1)

/-- The whole number that a double is, if it is one. -/
def whole? (f : Float) : Option Int :=
  let bits := f.toBits.toNat
  let size := bits % twoTo 63
  let (num, den) := fractionOf size
  if infinityBits ≤ size ∨ num % den ≠ 0 then none
  else some (if twoTo 63 ≤ bits then -((num / den : Nat) : Int) else (num / den : Nat))

/-- The least exponent from `e` on for which the fraction is below ten to its next power. -/
def leadingExponent (num den : Nat) : Nat → Int → Int
  | 0, e => e
  | steps + 1, e =>
    let below := if e + 1 < 0 then num * tenTo (e + 1).natAbs < den
      else num < den * tenTo (e + 1).toNat
    if below then e else leadingExponent num den steps (e + 1)

/-- The decimal with digits down to `10 ^ e` that reads back as `bits` and is nearest to the
fraction, if there is one. -/
def candidate? (bits num den : Nat) (e : Int) : Option Nat :=
  let n := if e < 0 then num * tenTo e.natAbs else num
  let d := if e < 0 then den else den * tenTo e.toNat
  let low := n / d
  let near := roundHalfEven n d
  let far := if near = low then low + 1 else low
  [near, far].find? fun c => c ≠ 0 && decimalBits c e = bits

/-- The digits of a whole number of units `10 ^ e` without trailing zeros, and the exponent of the
last one. -/
def trimmed (c : Nat) (e : Int) : Text × Int :=
  let digits := Nat.toDigits 10 c
  let zeros := (digits.reverse.takeWhile (· = '0')).length
  (digits.take (digits.length - zeros), e + zeros)

/-- The digits of the shortest decimal that reads back, and the exponent of its last digit. -/
def digitsOf (bits : Nat) : Text × Int :=
  let (num, den) := fractionOf bits
  let top := leadingExponent num den 640 (-330)
  match (List.range 17).findSome? fun (k : Nat) =>
      (candidate? bits num den (top - k)).map fun c => trimmed c (top - k) with
  | some found => found
  | none => (Nat.toDigits 10 0, 0)

/-- Digits and the exponent of the last one, laid out. -/
def layOut (digits : Text) (e : Int) : Text :=
  let point : Int := digits.length + e
  if 16 < point ∨ point ≤ -4 then
    let x := point - 1
    let shown := Nat.toDigits 10 x.natAbs
    digits.take 1 ++ (if digits.length = 1 then [] else '.' :: digits.drop 1) ++ ['e'] ++
      (if x < 0 then ['-'] else ['+']) ++ (if shown.length = 1 then '0' :: shown else shown)
  else if point ≤ 0 then ofString "0." ++ List.replicate point.natAbs '0' ++ digits
  else if e < 0 then digits.take point.toNat ++ '.' :: digits.drop point.toNat
  else digits ++ List.replicate e.toNat '0' ++ ofString ".0"

/-- The shortest text of a double. -/
def showFloat (f : Float) : Text :=
  let bits := f.toBits.toNat
  let size := bits % twoTo 63
  if infinityBits < size then ofString "nan"
  else
    (if twoTo 63 ≤ bits then ['-'] else []) ++
      (if size = infinityBits then ofString "inf"
        else if size = 0 then ofString "0.0"
        else layOut (digitsOf size).1 (digitsOf size).2)

end Dialogue.Decimal
