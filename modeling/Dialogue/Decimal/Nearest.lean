/-!
# The double nearest to a fraction

A double has 53 binary digits and an exponent from -1074 on. The one nearest to a fraction is found
in whole numbers: the fraction is scaled so that its quotient has 53 binary digits, or fewer at the
lowest exponent, and the quotient is rounded, a half to the even neighbour.

* `twoTo`, `tenTo`: the powers of the two bases;
* `roundHalfEven`: a quotient of whole numbers, rounded;
* `nearestBits`: the bit pattern of the nearest double, as if exponents had no upper end;
* `nearest?`: the double, unless the fraction is too large for one.

`roundHalfEven_error` says that the rounding is never off by more than a half.
-/

namespace Dialogue.Decimal

/-- A power of two. -/
def twoTo (n : Nat) : Nat := Nat.pow 2 n

/-- A power of ten. -/
def tenTo (n : Nat) : Nat := Nat.pow 10 n

/-- The whole number nearest to `num / den`, a half going to the even neighbour. -/
def roundHalfEven (num den : Nat) : Nat :=
  let q := num / den
  let r := num % den
  if 2 * r < den ∨ (2 * r = den ∧ q % 2 = 0) then q else q + 1

/-- Twice the distance between the rounded quotient and the fraction is at most one, in units of
`1 / den`. -/
theorem roundHalfEven_error (num den : Nat) (h : 0 < den) :
    2 * (roundHalfEven num den * den) ≤ 2 * num + den ∧
      2 * num ≤ 2 * (roundHalfEven num den * den) + den := by
  have hd : den * (num / den) + num % den = num := Nat.div_add_mod num den
  have hlt : num % den < den := Nat.mod_lt _ h
  have hc : num / den * den = den * (num / den) := Nat.mul_comm _ _
  unfold roundHalfEven
  simp only
  split
  · rename_i hs
    rw [hc]
    omega
  · rename_i hs
    rw [Nat.add_mul, hc]
    omega

/-- The exponent at which the quotient of a positive fraction has 53 binary digits, but no lower
than -1074. -/
def exponentOf (num den : Nat) : Int :=
  let e : Int := (Nat.log2 num : Int) - Nat.log2 den - 52
  let fits := if e < 0 then decide (num * twoTo e.natAbs < den * twoTo 52)
    else decide (num < den * twoTo (52 + e.toNat))
  max (-1074) (if fits then e - 1 else e)

/-- The bit pattern of the double nearest to a fraction; a fraction above all doubles gives a
pattern at or above that of infinity. -/
def nearestBits (num den : Nat) : Nat :=
  if num = 0 then 0
  else
    let e := exponentOf num den
    let m := if e < 0 then roundHalfEven (num * twoTo e.natAbs) den
      else roundHalfEven num (den * twoTo e.toNat)
    (e + 1074).toNat * twoTo 52 + m

/-- The bit pattern of infinity. -/
def infinityBits : Nat := 0x7ff0000000000000

/-- The double nearest to a fraction, unless it is too large for one. -/
def nearest? (num den : Nat) : Option Float :=
  let bits := nearestBits num den
  if bits < infinityBits then some (Float.ofBits bits.toUInt64) else none

end Dialogue.Decimal
