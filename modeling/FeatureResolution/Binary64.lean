/-!
# Binary floating point numbers

A finite number of 64 bits is `± mantissa · 2 ^ scale` in units of `2 ^ -1074`, the smallest
positive one. Everything here is exact arithmetic on natural numbers: `Binary64.round` takes a
fraction to the nearest number, of two equally near ones to the one with an even mantissa, and all
other operations compute a fraction first and round it once.
-/

namespace FeatureResolution

/-- A binary floating point number of 64 bits. A finite one has a mantissa below `2 ^ 53`; its scale
is zero unless the mantissa has all 53 bits. -/
inductive Binary64 where
  | finite (negative : Bool) (mantissa scale : Nat)
  | infinite (negative : Bool)
  | notNumber
deriving DecidableEq, Repr, Inhabited

namespace Binary64

/-- How many units there are in one. -/
def unitsInOne : Nat :=
  Nat.pow 2 1074

/-- The size of a finite number in units; zero for every other number. -/
def units : Binary64 → Nat
  | .finite _ mantissa scale => mantissa * Nat.pow 2 scale
  | _ => 0

/-- Whether a number is below zero or is the negative zero. -/
def isNegative : Binary64 → Bool
  | .finite negative _ _ => negative
  | .infinite negative => negative
  | .notNumber => false

/-- Whether a number is a zero of either sign. -/
def isZero : Binary64 → Bool
  | .finite _ mantissa _ => mantissa == 0
  | _ => false

/-- The number of binary digits of a natural number. -/
def bitLength (value : Nat) : Nat :=
  if value = 0 then 0 else Nat.log2 value + 1

/-- The quotient of two natural numbers to the nearest integer, a tie to the even one. -/
def divideToEven (numerator denominator : Nat) : Nat :=
  let quotient := numerator / denominator
  let twice := 2 * (numerator % denominator)
  if twice < denominator then quotient
  else if denominator < twice then quotient + 1
  else quotient + quotient % 2

/-- The number nearest to a fraction. -/
def round (negative : Bool) (numerator denominator : Nat) : Binary64 :=
  let numerator := numerator * unitsInOne
  let scale := bitLength (numerator / denominator) - 53
  let mantissa := divideToEven numerator (denominator * Nat.pow 2 scale)
  let (mantissa, scale) :=
    if mantissa = Nat.pow 2 53 then (Nat.pow 2 52, scale + 1) else (mantissa, scale)
  if 2045 < scale then .infinite negative else .finite negative mantissa scale

/-- The number nearest to `digits · 10 ^ exponent`. Beyond 10³¹⁰ every number is infinite and below
10⁻³³⁰ every number is zero, so the power is only computed in between. -/
def ofDecimal (negative : Bool) (digits : Nat) (exponent : Int) : Binary64 :=
  let size : Int := (Nat.toDigits 10 digits).length + exponent
  if digits = 0 || size < -330 then .finite negative 0 0
  else if 310 < size then .infinite negative
  else if exponent < 0 then round negative digits (Nat.pow 10 (-exponent).toNat)
  else round negative (digits * Nat.pow 10 exponent.toNat) 1

/-- A number with the other sign. -/
def negate : Binary64 → Binary64
  | .finite negative mantissa scale => .finite (!negative) mantissa scale
  | .infinite negative => .infinite (!negative)
  | .notNumber => .notNumber

/-- What a number denotes, in units of the smallest one; nothing for what is not finite. -/
def signedUnits : Binary64 → Int
  | number@(.finite negative ..) => if negative then -(number.units : Int) else number.units
  | _ => 0

/-- The number nearest to a whole number of units. -/
def ofUnits (units : Int) : Binary64 :=
  round (units < 0) units.natAbs unitsInOne

/-- The sum of two numbers. Opposite infinities have none. -/
def add : Binary64 → Binary64 → Binary64
  | .notNumber, _ | _, .notNumber => .notNumber
  | .infinite first, .infinite second => if first = second then .infinite first else .notNumber
  | .infinite negative, .finite .. | .finite .., .infinite negative => .infinite negative
  | first@(.finite ..), second@(.finite ..) => ofUnits (first.signedUnits + second.signedUnits)

/-- The product of two numbers. Zero times infinity has none. -/
def multiply : Binary64 → Binary64 → Binary64
  | .notNumber, _ | _, .notNumber => .notNumber
  | .infinite first, second | second, .infinite first =>
    if second.isZero then .notNumber else .infinite (first != second.isNegative)
  | first@(.finite ..), second@(.finite ..) =>
    round (first.isNegative != second.isNegative) (first.units * second.units)
      (unitsInOne * unitsInOne)

/-- The number nearest to a natural number, unless it is beyond all numbers. -/
def ofNat? (value : Nat) : Option Binary64 :=
  match round false value 1 with
  | .infinite _ => none
  | number => some number

end Binary64

end FeatureResolution
