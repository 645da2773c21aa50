import Dialogue.Decimal.Nearest

/-!
# Doubles from decimal numbers

A decimal number is a whole number times a power of ten. Far outside the range of doubles the power
is not computed.

* `ofDecimal`: the nearest double, infinite above the range.
-/

namespace Dialogue.Decimal

/-- The number of decimal digits of a whole number. -/
def digitCount (n : Nat) : Nat := (Nat.toDigits 10 n).length

/-- The bit pattern of the double nearest to `m * 10 ^ e`. -/
def decimalBits (m : Nat) (e : Int) : Nat :=
  if m = 0 ∨ e + digitCount m < -330 then 0
  else if 310 < e + digitCount m then infinityBits
  else
    min infinityBits
      (if e < 0 then nearestBits m (tenTo e.natAbs) else nearestBits (m * tenTo e.toNat) 1)

/-- The double nearest to `m * 10 ^ e`, with a sign. -/
def ofDecimal (negative : Bool) (m : Nat) (e : Int) : Float :=
  Float.ofBits ((if negative then twoTo 63 else 0) + decimalBits m e).toUInt64

end Dialogue.Decimal
