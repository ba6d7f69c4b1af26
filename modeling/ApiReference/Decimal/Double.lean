/-!
# Binary Doubles

A finite double is a significand below `2^53` times a power of two.  Every operation computes its
exact rational result and rounds once, to the nearest double, ties to the even significand.
-/

namespace ApiReference.Decimal

/-- A double-precision number, `± significand * 2^exponent` when finite. -/
inductive Double where
  | finite (negative : Bool) (significand : Nat) (exponent : Int)
  | infinite (negative : Bool)
  | nan
  deriving Repr, DecidableEq

namespace Double

def minExponent : Int := -1074

def maxExponent : Int := 971

def leastSignificand : Nat := 0x10000000000000

/-- Zero with a sign. -/
def zero (negative : Bool) : Double :=
  .finite negative 0 minExponent

/-- The integer nearest to `num / den`, the even one of two. -/
def roundRatio (num den : Nat) : Nat :=
  let floor := num / den
  let twice := 2 * (num % den)
  if twice < den then floor
  else if den < twice then floor + 1
  else floor + floor % 2

/-- The ratio `num / den` divided by `2^exponent`, again as a ratio. -/
def unscale (num den : Nat) (exponent : Int) : Nat × Nat :=
  if 0 ≤ exponent then (num, den * Nat.pow 2 exponent.toNat)
  else (num * Nat.pow 2 (-exponent).toNat, den)

/-- The exponent at which the floor of `num / den` has 53 binary digits, or the smallest one. -/
def exponentOf (num den : Nat) : Int :=
  let guess : Int := num.log2 - den.log2 - 52
  let (scaledNum, scaledDen) := unscale num den guess
  max minExponent (if scaledNum / scaledDen < leastSignificand then guess - 1 else guess)

/-- The double nearest to `num / den`. -/
def ofRatio (negative : Bool) (num den : Nat) : Double :=
  if num = 0 then zero negative
  else
    let exponent := exponentOf num den
    let (scaledNum, scaledDen) := unscale num den exponent
    let rounded := roundRatio scaledNum scaledDen
    let (significand, exponent) :=
      if rounded = 2 * leastSignificand then (leastSignificand, exponent + 1)
      else (rounded, exponent)
    if maxExponent < exponent then .infinite negative
    else .finite negative significand exponent

/-- The double nearest to `digits * 10^power`.  Far beyond the range of doubles the power of ten is
not computed. -/
def ofDecimal (negative : Bool) (digits : Nat) (power : Int) : Double :=
  if digits = 0 ∨ power + digits.log2 / 3 + 1 < -400 then zero negative
  else if 400 < power then .infinite negative
  else if 0 ≤ power then ofRatio negative (digits * Nat.pow 10 power.toNat) 1
  else ofRatio negative digits (Nat.pow 10 (-power).toNat)

def ratio (significand : Nat) (exponent : Int) : Nat × Nat :=
  if 0 ≤ exponent then (significand * Nat.pow 2 exponent.toNat, 1)
  else (significand, Nat.pow 2 (-exponent).toNat)

/-- A double times a positive power of ten that is rounded first. -/
def timesPowerOfTen (x : Double) (power : Nat) : Double :=
  match x, ofDecimal false 1 power with
  | .finite negative m e, .finite _ n f =>
    let (num, den) := ratio (m * n) (e + f)
    ofRatio negative num den
  | x, _ => x

/-- A double divided by a positive power of ten that is rounded first. -/
def dividedByPowerOfTen (x : Double) (power : Nat) : Double :=
  match x, ofDecimal false 1 power with
  | .finite negative m e, .finite _ n f =>
    let (num, den) := ratio 1 (e - f)
    ofRatio negative (m * num) (n * den)
  | x, _ => x

def negate : Double → Double
  | .finite negative m e => .finite (!negative) m e
  | .infinite negative => .infinite (!negative)
  | .nan => .nan

def isZero : Double → Bool
  | .finite _ m _ => m == 0
  | _ => false

end Double

end ApiReference.Decimal
