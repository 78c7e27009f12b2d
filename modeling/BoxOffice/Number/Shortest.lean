import BoxOffice.Number.Double
import BoxOffice.Text.Numeral

/-!
# Shortest decimals

The text of a double has the fewest digits that are still nearer to it than to any other double, and of
those the nearest (`shortest`). `Double.text` lays the digits out.
-/

namespace BoxOffice.Number

open BoxOffice.Text

/-- The number `digits * 10 ^ exponent`. -/
structure Decimal where
  digits : Nat
  exponent : Int
  deriving Repr, DecidableEq

/-- The order of `a * 10 ^ i` and `n * 2 ^ j`. -/
def compareScaled (a : Nat) (i : Int) (n : Nat) (j : Int) : Ordering :=
  compare ((a * Nat.pow 10 i.toNat) <<< (-j).toNat) ((n * Nat.pow 10 (-i).toNat) <<< j.toNat)

namespace Double

/-- Whether a decimal lies among the numbers that round to the absolute value of `x`: between the halfway
points to its two neighbours, which count only if the mantissa is even. Below a power of two the lower
neighbour is half as far away. -/
def covers (x : Double) (d : Decimal) : Bool :=
  let narrow := x.mantissa = fullMantissa ∧ leastExponent < x.exponent
  let low := if narrow then 4 * x.mantissa - 1 else 4 * x.mantissa - 2
  let high := 4 * x.mantissa + 2
  let ends := x.mantissa % 2 = 0
  let below := compareScaled d.digits d.exponent low (x.exponent - 2)
  let above := compareScaled d.digits d.exponent high (x.exponent - 2)
  (below == .gt || (ends && below == .eq)) && (above == .lt || (ends && above == .eq))

/-- The least `k` with `x < 10 ^ k`, for a positive `x`. -/
def decimalScale (x : Double) : Int :=
  let whole := x.numerator / x.denominator
  if whole ≠ 0 then (natDigits whole).length
  else
    match (List.range 330).find? fun j => x.denominator ≤ x.numerator * Nat.pow 10 (j + 1) with
    | some j => -(j : Int)
    | none => 0

/-- The decimal of a grid that is nearest to `x` among those that `x` covers; the even one of two. -/
def onGrid? (x : Double) (grid : Int) : Option Decimal :=
  let n := x.numerator * Nat.pow 10 (-grid).toNat
  let d := x.denominator * Nat.pow 10 grid.toNat
  let lower : Decimal := ⟨n / d, grid⟩
  let upper : Decimal := ⟨n / d + 1, grid⟩
  match x.covers lower, x.covers upper with
  | true, true => if roundQuotient n d = n / d then some lower else some upper
  | true, false => some lower
  | false, true => some upper
  | false, false => none

/-- The shortest decimal that `x` covers, for a positive `x`. Seventeen digits are always enough. -/
def shortest (x : Double) : Decimal :=
  let k := x.decimalScale
  ((List.range 17).findSome? fun n : Nat => x.onGrid? (k - (n + 1))).getD
    ⟨x.numerator * Nat.pow 5 (-x.exponent).toNat, min x.exponent 0⟩

/-- Digits without the zeros at their end. -/
def stripZeros (ds : List Char) : List Char := (ds.reverse.dropWhile (· = '0')).reverse

/-- Positional from `10 ^ -5` to below `10 ^ 16`, with at least one digit on both sides of the point;
otherwise one digit, the others after a point, and a signed exponent. -/
def layout (ds : List Char) (lead : Int) : List Char :=
  if -5 ≤ lead && lead < 0 then
    '0' :: '.' :: List.replicate (-lead - 1).toNat '0' ++ ds
  else if 0 ≤ lead && lead < 16 then
    let whole := lead.toNat + 1
    let after := ds.drop whole
    ds.take whole ++ List.replicate (whole - ds.length) '0' ++
      '.' :: (if after.isEmpty then ['0'] else after)
  else
    ds.take 1 ++ (if ds.length ≤ 1 then [] else '.' :: ds.drop 1) ++
      ['e', if lead < 0 then '-' else '+'] ++ natDigits lead.natAbs

/-- The text of a double. -/
def text (x : Double) : String :=
  let magnitude :=
    if x.mantissa = 0 then ['0', '.', '0']
    else
      let d := x.shortest
      let ds := natDigits d.digits
      layout (stripZeros ds) (d.exponent + ds.length - 1)
  String.ofList (if x.negative then '-' :: magnitude else magnitude)

end Double

end BoxOffice.Number
