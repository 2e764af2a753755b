/-!
# Binary numbers of limited precision

A binary number is a whole mantissa times a power of two. A format limits the number of binary
digits and the exponents, and every ratio is rounded to the nearest number of a format, a half to
the even neighbour (`roundDiv`). Products and quotients are computed exactly and rounded once.
-/

namespace Locution

/-- A quotient rounded to the nearest whole number, a half to the even one. -/
def roundDiv (num den : Nat) : Nat :=
  let quotient := num / den
  let twice := 2 * (num % den)
  if twice > den || (twice == den && quotient % 2 == 1) then quotient + 1 else quotient

/-- A format of binary numbers: how many digits the mantissa has, how far exponents go, and which
numbers are written with the point in place, by the exponent of their first decimal digit. -/
structure BinaryFormat where
  digits : Nat
  leastExponent : Int
  greatestExponent : Int
  leastFixed : Int
  greatestFixed : Int

/-- The format of 64 bits. The point is in place from 0.00001 up to sixteen whole digits. -/
def doubleFormat : BinaryFormat := ⟨53, -1074, 971, -5, 15⟩

/-- The format of 32 bits. The point is in place from 0.000001 up to thirteen whole digits. -/
def singleFormat : BinaryFormat := ⟨24, -149, 104, -6, 12⟩

/-- The number `mantissa * 2 ^ exponent`. -/
structure Binary where
  mantissa : Nat
  exponent : Int
  deriving DecidableEq

namespace Binary

/-- Zero. -/
def zero : Binary := ⟨0, 0⟩

/-- The numerator of a number written as a fraction. -/
def num (x : Binary) : Nat :=
  x.mantissa * Nat.pow 2 x.exponent.toNat

/-- The denominator of a number written as a fraction. -/
def den (x : Binary) : Nat :=
  Nat.pow 2 (-x.exponent).toNat

/-- The number with the mantissa `num / den` shifted by an exponent, rounded. -/
def atExponent (num den : Nat) (exponent : Int) : Binary :=
  ⟨roundDiv (num * Nat.pow 2 (-exponent).toNat) (den * Nat.pow 2 exponent.toNat), exponent⟩

/-- Whether `num / den` divided by a power of two still fills all but one of the digits. -/
def reaches (digits : Nat) (num den : Nat) (exponent : Int) : Bool :=
  den * Nat.pow 2 exponent.toNat * Nat.pow 2 (digits - 1) ≤ num * Nat.pow 2 (-exponent).toNat

/-- The number of a format nearest to `num / den`. There is none when it would lie beyond the
greatest exponent. -/
def nearest? (format : BinaryFormat) (num den : Nat) : Option Binary :=
  if num == 0 then some zero
  else
    let guess : Int := (num.log2 : Int) - den.log2 - (format.digits - 1)
    let fitting := if reaches format.digits num den guess then guess else guess - 1
    let exponent := max fitting format.leastExponent
    let rounded := atExponent num den exponent
    let carried : Binary :=
      if rounded.mantissa == 0 then zero
      else if rounded.mantissa == Nat.pow 2 format.digits then
        ⟨Nat.pow 2 (format.digits - 1), exponent + 1⟩
      else rounded
    if carried.exponent > format.greatestExponent then none else some carried

/-- The rounded product with a whole number, or quotient by it. -/
def scale? (format : BinaryFormat) (x : Binary) (factor divisor : Binary) : Option Binary :=
  nearest? format (x.num * factor.num * divisor.den) (x.den * factor.den * divisor.num)

/-- The rounded sum of two numbers. -/
def add? (format : BinaryFormat) (x y : Binary) : Option Binary :=
  nearest? format (x.num * y.den + y.num * x.den) (x.den * y.den)

end Binary

end Locution
