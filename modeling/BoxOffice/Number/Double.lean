/-!
# Finite binary64 numbers

A finite double is a sign, a mantissa below `2 ^ 53` and an exponent of at least `-1074`. All arithmetic
is exact on naturals and then rounded once, to the nearest double and to the even one of two equally
near (`Double.magnitude?`).

`Double.ofDecimal?` is the reading of a decimal as documents are read here: the leading digits and the
power of ten are each rounded to a double, and their product or quotient is rounded again. The result
may therefore differ from the nearest double in the last place.
-/

namespace BoxOffice.Number

/-- The number `± mantissa * 2 ^ exponent`. -/
structure Double where
  negative : Bool
  mantissa : Nat
  exponent : Int
  deriving Repr, DecidableEq, Inhabited

/-- The quotient of two naturals, rounded to the nearest natural and to the even one of two. -/
def roundQuotient (n d : Nat) : Nat :=
  let q := n / d
  let r := n % d
  if 2 * r < d then q
  else if d < 2 * r then q + 1
  else if q % 2 = 0 then q
  else q + 1

namespace Double

/-- The exponent of the smallest positive double. -/
def leastExponent : Int := -1074

/-- The greatest exponent that a mantissa of 53 bits may have. -/
def greatestExponent : Int := 971

/-- The least mantissa of 53 bits, `2 ^ 52`. -/
def fullMantissa : Nat := 4503599627370496

/-- The greatest `e` with `2 ^ e ≤ n / d`, for positive `n` and `d`. -/
def binaryScale (n d : Nat) : Int :=
  let e : Int := (Nat.log2 n : Int) - Nat.log2 d
  if n <<< (-e).toNat < d <<< e.toNat then e - 1 else e

/-- The non-negative double nearest to `n / d`; nothing if that is beyond the greatest double. -/
def magnitude? (n d : Nat) : Option Double :=
  if n = 0 then some ⟨false, 0, leastExponent⟩
  else
    let q := max (binaryScale n d - 52) leastExponent
    let m := roundQuotient (n <<< (-q).toNat) (d <<< q.toNat)
    let (m, q) := if m = 2 * fullMantissa then (fullMantissa, q + 1) else (m, q)
    if greatestExponent < q then none else some ⟨false, m, q⟩

/-- The numerator of the absolute value of a double over `denominator`. -/
def numerator (x : Double) : Nat := x.mantissa <<< x.exponent.toNat

/-- The denominator that goes with `numerator`. -/
def denominator (x : Double) : Nat := 1 <<< (-x.exponent).toNat

/-- The double nearest to a natural. -/
def ofNat? (n : Nat) : Option Double := magnitude? n 1

/-- The product of two absolute values, rounded. -/
def mul? (x y : Double) : Option Double :=
  magnitude? (x.numerator * y.numerator) (x.denominator * y.denominator)

/-- The quotient of two absolute values, rounded; the second is not zero. -/
def div? (x y : Double) : Option Double :=
  magnitude? (x.numerator * y.denominator) (x.denominator * y.numerator)

/-- The greatest power of ten that is a double. -/
def greatestPower : Nat := 308

/-- The absolute value `x * 10 ^ exponent`, where each power of ten used is at most `greatestPower`. A
negative exponent below that range is worked off in steps, of which the third leaves zero for every `x`
that is the rounding of a 64-bit number; `steps` bounds their number. -/
def scale? (steps : Nat) (x : Double) (exponent : Int) : Option Double :=
  if exponent.natAbs ≤ greatestPower then
    match ofNat? (Nat.pow 10 exponent.natAbs) with
    | none => none
    | some power => if 0 ≤ exponent then x.mul? power else x.div? power
  else if x.mantissa = 0 then some x
  else if 0 ≤ exponent then none
  else
    match steps with
    | 0 => some ⟨false, 0, leastExponent⟩
    | steps + 1 =>
      match ofNat? (Nat.pow 10 greatestPower) with
      | none => none
      | some power =>
        match x.div? power with
        | none => none
        | some y => scale? steps y (exponent + greatestPower)

/-- The double that `± significand * 10 ^ exponent` is read as; nothing if it is out of range. -/
def ofDecimal? (negative : Bool) (significand : Nat) (exponent : Int) : Option Double :=
  match ofNat? significand with
  | none => none
  | some x => (scale? 3 x exponent).map fun y => { y with negative }

end Double

end BoxOffice.Number
