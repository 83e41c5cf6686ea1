import Resolver.Decimal.Binary64

/-!
# Shortest decimal forms

The decimal with the fewest digits that rounds to a given floating-point number, and of several
such the nearest to it. `FloatStyle` says how it is laid out as text.
-/

namespace Resolver

/-- A positive decimal `digits * 10 ^ exponent`. -/
structure Decimal where
  digits : Nat
  exponent : Int
  deriving DecidableEq, Repr

namespace Binary64

/-- Whether `d * 10 ^ k` compares with the fraction `num / den` as `test` says. -/
def compareDecimal (test : Nat → Nat → Bool) (d : Nat) (k : Int) (num den : Nat) : Bool :=
  if 0 ≤ k then test (d * powerOfTen k.toNat * den) num
  else test (d * den) (num * powerOfTen (-k).toNat)

/-- Four times the number, and four times the bounds of what rounds to it, as numerators over one
denominator. Below a power of two the bound is half as far away. -/
def bounds (x : Binary64) : Nat × Nat × Nat × Nat :=
  let (up, den) := twoTo (x.exponent - 2)
  let below := if x.mantissa = 0x10000000000000 ∧ minExponent < x.exponent then 1 else 2
  (4 * x.mantissa * up, (4 * x.mantissa - below) * up, (4 * x.mantissa + 2) * up, den)

/-- Whether a decimal rounds to the number. -/
def isNear (x : Binary64) (d : Nat) (k : Int) : Bool :=
  let (_, low, high, den) := x.bounds
  if x.mantissa % 2 = 0 then
    compareDecimal (fun a b => b ≤ a) d k low den && compareDecimal (fun a b => a ≤ b) d k high den
  else
    compareDecimal (fun a b => b < a) d k low den && compareDecimal (fun a b => a < b) d k high den

/-- The digits of the multiple of `10 ^ k` just below the number. -/
def floorAt (x : Binary64) (k : Int) : Nat :=
  let (value, _, _, den) := x.bounds
  if 0 ≤ k then value / (den * powerOfTen k.toNat) else value * powerOfTen (-k).toNat / den

/-- Whether the multiple of `10 ^ k` with digits `d` is at least as near to the number as the next
one up. -/
def prefersLower (x : Binary64) (d : Nat) (k : Int) : Bool :=
  let (value, _, _, den) := x.bounds
  compareDecimal (fun a b => b < a ∨ (b = a ∧ d % 2 = 0)) (2 * d + 1) k (2 * value) den

/-- The decimal on the grid of multiples of `10 ^ k` that rounds to the number, if there is one. -/
def onGrid? (x : Binary64) (k : Int) : Option Decimal :=
  let d := x.floorAt k
  match 0 < d && x.isNear d k, x.isNear (d + 1) k with
  | true, true => some ⟨if x.prefersLower d k then d else d + 1, k⟩
  | true, false => some ⟨d, k⟩
  | false, true => some ⟨d + 1, k⟩
  | false, false => none

/-- The shortest decimal of a positive number: the one on the coarsest grid. -/
def shortest (x : Binary64) : Decimal :=
  ((List.range 640).findSome? fun (i : Nat) => x.onGrid? (309 - (i : Int))).getD ⟨0, 0⟩

end Binary64

/-- How a decimal is laid out as text. -/
structure FloatStyle where
  /-- The most digits before the point in positional notation. -/
  maxIntegerDigits : Int
  /-- The most zeros behind the point in positional notation. -/
  maxLeadingZeros : Int
  /-- Whether a plus sign stands before a positive exponent. -/
  plusSign : Bool
  deriving DecidableEq, Repr

namespace FloatStyle

/-- The text of an exponent. -/
def exponentText (style : FloatStyle) (n : Int) : String :=
  (if style.plusSign ∧ 0 < n then "e+" else "e") ++ toString n

/-- The text of a number with the given sign. Whole numbers end in `.0`; outside the range of
positional notation one digit stands before the point and the exponent behind an `e`. -/
def format (style : FloatStyle) (negative : Bool) (x : Binary64) : String :=
  let sign := if negative then "-" else ""
  if x.mantissa = 0 then sign ++ "0.0"
  else
    let decimal := x.shortest
    let digits := toString decimal.digits
    let count : Int := digits.length
    let point := count + decimal.exponent
    let body :=
      if 0 ≤ decimal.exponent ∧ point ≤ style.maxIntegerDigits then
        digits ++ String.ofList (List.replicate decimal.exponent.toNat '0') ++ ".0"
      else if 0 < point ∧ point ≤ style.maxIntegerDigits then
        String.ofList (digits.toList.take point.toNat) ++ "." ++
          String.ofList (digits.toList.drop point.toNat)
      else if -style.maxLeadingZeros ≤ point ∧ point ≤ 0 then
        "0." ++ String.ofList (List.replicate (-point).toNat '0') ++ digits
      else if count = 1 then digits ++ style.exponentText (point - 1)
      else
        String.ofList (digits.toList.take 1) ++ "." ++ String.ofList (digits.toList.drop 1) ++
          style.exponentText (point - 1)
    sign ++ body

end FloatStyle

end Resolver
