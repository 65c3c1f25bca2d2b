import FeatureResolution.Binary64

/-!
# Decimal text of floating point numbers

A number is written with the fewest decimal digits that read back as the same number, and of those
with the digits nearest to it. `Binary64.shortest` looks for them on coarser and then finer decimal
grids: on each it tries the two neighbours of the number. `Binary64.text` writes the digits out, in
positional notation from 10⁻⁴ up to 10¹⁶ and with an exponent beyond.
-/

namespace FeatureResolution

/-- The digits of a number without the zeros at its end. -/
def significantDigits (value : Nat) : List Char :=
  ((Nat.toDigits 10 value).reverse.dropWhile (· == '0')).reverse

/-- A number `0.d₁d₂… · 10 ^ point` in positional notation. -/
def positional (digits : List Char) (point : Int) : List Char :=
  if point ≤ 0 then '0' :: '.' :: List.replicate (-point).toNat '0' ++ digits
  else if digits.length ≤ point.toNat then
    digits ++ List.replicate (point.toNat - digits.length) '0' ++ ['.', '0']
  else digits.take point.toNat ++ '.' :: digits.drop point.toNat

/-- A number `0.d₁d₂… · 10 ^ point` with an exponent of at least two digits. -/
def scientific (digits : List Char) (point : Int) : List Char :=
  let exponent := point - 1
  let mantissa :=
    match digits with
    | [] => ['0']
    | [d] => [d]
    | d :: more => d :: '.' :: more
  let size := Nat.toDigits 10 exponent.natAbs
  mantissa ++ 'e' :: (if exponent < 0 then '-' else '+') ::
    (List.replicate (2 - size.length) '0' ++ size)

/-- The number `digits · 10 ^ exponent`: positional from 10⁻⁴ up to 10¹⁶, with an exponent
beyond. -/
def decimalText (digits : Nat) (exponent : Int) : List Char :=
  let point : Int := (Nat.toDigits 10 digits).length + exponent
  if digits = 0 then ['0', '.', '0']
  else if -4 < point && point ≤ 16 then positional (significantDigits digits) point
  else scientific (significantDigits digits) point

namespace Binary64

/-- The least `k` with the size of a positive number below `10 ^ k`. No positive number is below
10⁻⁴⁰⁰, so the digits of the whole part are counted after shifting by 400 places. -/
def decimalPoint (number : Binary64) : Int :=
  (Nat.toDigits 10 (number.units * Nat.pow 10 400 / unitsInOne)).length - 400

/-- The size of a number as a fraction in steps of `10 ^ exponent`. -/
def inSteps (number : Binary64) (exponent : Int) : Nat × Nat :=
  if exponent < 0 then (number.units * Nat.pow 10 (-exponent).toNat, unitsInOne)
  else (number.units, unitsInOne * Nat.pow 10 exponent.toNat)

/-- The multiple of `10 ^ exponent` nearest to a number among its two neighbours that read back as
the number. -/
def onGrid? (number : Binary64) (exponent : Int) : Option Nat :=
  let (numerator, denominator) := number.inSteps exponent
  let below := numerator / denominator
  let readsBack (digits : Nat) : Bool := ofDecimal number.isNegative digits exponent = number
  match readsBack below, readsBack (below + 1) with
  | true, true => some (divideToEven numerator denominator)
  | true, false => some below
  | false, true => some (below + 1)
  | false, false => none

/-- The shortest decimal of a positive number, as digits and exponent, with at least the given
number of digits. -/
def shortestFrom (number : Binary64) (point : Int) : Nat → Nat → Nat × Int
  | 0, digits => ((number.onGrid? (point - digits)).getD 0, point - digits)
  | more + 1, digits =>
    match number.onGrid? (point - digits) with
    | some found => (found, point - digits)
    | none => shortestFrom number point more (digits + 1)

/-- The fewest digits that read back as a positive number; seventeen always do. -/
def shortest (number : Binary64) : Nat × Int :=
  number.shortestFrom number.decimalPoint 16 1

/-- The text of a number. -/
def text (number : Binary64) : String :=
  let sign := if number.isNegative then ['-'] else []
  match number with
  | .notNumber => "nan"
  | .infinite _ => String.ofList (sign ++ ['i', 'n', 'f'])
  | .finite _ 0 _ => String.ofList (sign ++ decimalText 0 0)
  | .finite .. =>
    let (digits, exponent) := number.shortest
    String.ofList (sign ++ decimalText digits exponent)

end Binary64

end FeatureResolution
