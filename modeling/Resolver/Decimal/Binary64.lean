/-!
# Binary floating-point numbers

Non-negative numbers `mantissa * 2 ^ exponent` with a mantissa below `2 ^ 53`, and rounding to the
nearest of them, a tie going to the even mantissa. All arithmetic is exact up to the one rounding.
-/

namespace Resolver

/-- A non-negative binary floating-point number of 64 bits. -/
structure Binary64 where
  mantissa : Nat
  exponent : Int
  deriving DecidableEq, Repr

namespace Binary64

/-- The least exponent. -/
def minExponent : Int := -1074

/-- The greatest exponent. -/
def maxExponent : Int := 971

/-- Zero. -/
def zero : Binary64 := ⟨0, minExponent⟩

/-! ## Rounding -/

/-- A power of ten. -/
def powerOfTen (n : Nat) : Nat :=
  Nat.pow 10 n

/-- The numerator and the denominator that `2 ^ e` multiplies a fraction by. -/
def twoTo (e : Int) : Nat × Nat :=
  if 0 ≤ e then (Nat.pow 2 e.toNat, 1) else (1, Nat.pow 2 (-e).toNat)

/-- A quotient rounded to the nearest number, a tie going to the even one. -/
def divideRounding (num den : Nat) : Nat :=
  let q := num / den
  let twice := 2 * (num % den)
  if twice < den ∨ (twice = den ∧ q % 2 = 0) then q else q + 1

/-- The number nearest to a fraction; none when it is too great. -/
def ofFraction? (num den : Nat) : Option Binary64 :=
  if num = 0 then some zero
  else
    -- The quotient has 53 binary digits before the point at this exponent or at the next.
    let guess : Int := num.log2 - den.log2 - 53
    let scaled := fun (e : Int) => ((twoTo (-e)).1 * num, (twoTo (-e)).2 * den)
    let e := max minExponent
      (if (scaled guess).1 / (scaled guess).2 < 0x20000000000000 then guess else guess + 1)
    let m := divideRounding (scaled e).1 (scaled e).2
    let r : Binary64 := if m = 0x20000000000000 then ⟨0x10000000000000, e + 1⟩ else ⟨m, e⟩
    if maxExponent < r.exponent then none else some r

/-- The number nearest to a natural number; none when it is too great. -/
def ofNat? (n : Nat) : Option Binary64 :=
  ofFraction? n 1

/-- The fraction that a number is. -/
def toFraction (x : Binary64) : Nat × Nat :=
  ((twoTo x.exponent).1 * x.mantissa, (twoTo x.exponent).2)

/-- The rounded product; none when it is too great. -/
def mul? (x y : Binary64) : Option Binary64 :=
  ofFraction? (x.toFraction.1 * y.toFraction.1) (x.toFraction.2 * y.toFraction.2)

/-- The rounded quotient; none when it is too great. -/
def div? (x y : Binary64) : Option Binary64 :=
  ofFraction? (x.toFraction.1 * y.toFraction.2) (x.toFraction.2 * y.toFraction.1)

/-! ## Decimals -/

/-- The greatest power of ten that is used as a factor. -/
def maxPower : Nat := 308

/-- The number for `significand * 10 ^ exponent`: the rounded significand is multiplied or divided
by a rounded power of ten. Exponents below -308 take several divisions. None when the number is too
great. -/
def scaledBy? (x : Binary64) (exponent : Int) : Nat → Option Binary64
  | 0 => some x
  | divisions + 1 =>
    if exponent.natAbs ≤ maxPower then
      match ofNat? (powerOfTen exponent.natAbs) with
      | some power => if 0 ≤ exponent then x.mul? power else x.div? power
      | none => none
    else if x.mantissa = 0 then some x
    else if 0 ≤ exponent then none
    else
      match (ofNat? (powerOfTen maxPower)).bind x.div? with
      | some x => x.scaledBy? (exponent + maxPower) divisions
      | none => none

/-- The number for `significand * 10 ^ exponent`; none when it is too great. -/
def ofDecimal? (significand : Nat) (exponent : Int) : Option Binary64 :=
  (ofNat? significand).bind fun x => x.scaledBy? exponent 8

end Binary64

end Resolver
