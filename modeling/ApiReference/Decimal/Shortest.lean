import ApiReference.Decimal.Double

/-!
# Shortest Decimal Text

The digits of a double are the fewest that read back as the same double, and of those the nearest
to it.  A layout says which decimal exponents are written positionally.
-/

namespace ApiReference.Decimal

/-- The decimal exponent of the first significant digit of `num / den`. -/
def leadingExponent (num den : Nat) : Int :=
  if den ≤ num then (Nat.toDigits 10 (num / den)).length - 1
  else
    let places := (Nat.toDigits 10 (den / num)).length
    if num * Nat.pow 10 (places - 1) = den then -(places - 1 : Int) else -(places : Int)

/-- The reals that round to one double, over the denominator `den`: from `low` to `high`, the ends
belonging to it iff `closed`. -/
structure Interval where
  low : Nat
  value : Nat
  high : Nat
  den : Nat
  closed : Bool

/-- The reals that round to the double `significand * 2^exponent`. -/
def Interval.of (significand : Nat) (exponent : Int) : Interval :=
  let (unit, den) := Double.ratio 1 exponent
  let value := 4 * significand * unit
  let below := if significand = Double.leastSignificand ∧ Double.minExponent < exponent then unit
    else 2 * unit
  { low := value - below, value, high := value + 2 * unit, den := 4 * den
    closed := significand % 2 == 0 }

/-- The decimal with digits `digits`, counted in units of `10^power`, if it lies in the interval,
and its distance from the value. -/
def Interval.distance? (i : Interval) (digits : Nat) (power : Int) : Option Nat :=
  let (scale, unit) :=
    if 0 ≤ power then (1, Nat.pow 10 power.toNat) else (Nat.pow 10 (-power).toNat, 1)
  let point := digits * unit * i.den
  let low := i.low * scale
  let high := i.high * scale
  let value := i.value * scale
  if (low < point ∧ point < high) ∨ (i.closed ∧ (point = low ∨ point = high)) then
    some (if point ≤ value then value - point else point - value)
  else none

/-- The decimal of at most `count` digits in the interval that is nearest to the value. -/
def Interval.nearest? (i : Interval) (leading : Int) (count : Nat) : Option (Nat × Int) :=
  let power := leading - count + 1
  let (num, den) :=
    if 0 ≤ power then (i.value, i.den * Nat.pow 10 power.toNat)
    else (i.value * Nat.pow 10 (-power).toNat, i.den)
  let floor := num / den
  match i.distance? floor power, i.distance? (floor + 1) power with
  | none, none => none
  | some _, none => some (floor, power)
  | none, some _ => some (floor + 1, power)
  | some below, some above =>
    if below < above ∨ (below = above ∧ floor % 2 = 0) then some (floor, power)
    else some (floor + 1, power)

/-- The digits of a positive double and the power of ten that they count. -/
def shortest (significand : Nat) (exponent : Int) : Nat × Int :=
  let i := Interval.of significand exponent
  let leading := leadingExponent i.value i.den
  match (List.range 17).findSome? fun n ↦ i.nearest? leading (n + 1) with
  | some (digits, power) =>
    if digits % 10 = 0 then (digits / 10, power + 1) else (digits, power)
  | none => (0, 0)

/-- Which decimal exponents are written without an exponent. -/
structure Layout where
  positional : Int → Bool

/-- Digits without an exponent, with a point in them. -/
def positionalText (digits : List Char) (leading : Int) : List Char :=
  if leading < 0 then
    ['0', '.'] ++ List.replicate (-leading - 1).toNat '0' ++ digits
  else
    let whole := leading.toNat + 1
    if digits.length ≤ whole then
      digits ++ List.replicate (whole - digits.length) '0' ++ ['.', '0']
    else digits.take whole ++ '.' :: digits.drop whole

/-- Digits with the point after the first of them, and an exponent that always has its sign. -/
def scientificText (digits : List Char) (leading : Int) : List Char :=
  let sign := if leading < 0 then '-' else '+'
  let power := (toString leading.natAbs).toList
  match digits with
  | [] => []
  | [d] => d :: 'e' :: sign :: power
  | d :: rest => d :: '.' :: rest ++ 'e' :: sign :: power

def Double.text (layout : Layout) : Double → String
  | .nan => "NaN"
  | .infinite negative => if negative then "-inf" else "inf"
  | .finite negative 0 _ => if negative then "-0.0" else "0.0"
  | .finite negative (m + 1) exponent =>
    let (digits, power) := shortest (m + 1) exponent
    let digits := (toString digits).toList
    let leading := power + digits.length - 1
    let body :=
      if layout.positional leading then positionalText digits leading
      else scientificText digits leading
    String.ofList (if negative then '-' :: body else body)

end ApiReference.Decimal
