import Locution.Number.Binary

/-!
# Decimal texts of binary numbers

The shortest decimal of a binary number has the fewest digits that are read back as that number;
of two with equally many digits it is the nearer one. The format says which decimals are written
with a point in place and which with an exponent. Fixed decimals have two places instead.
-/

namespace Locution

/-- The decimal `digits * 10 ^ exponent`. -/
structure Decimal where
  digits : Nat
  exponent : Int
  deriving DecidableEq

namespace Decimal

/-- The numerator of a decimal written as a fraction. -/
def num (d : Decimal) : Nat :=
  d.digits * Nat.pow 10 d.exponent.toNat

/-- The denominator of a decimal written as a fraction. -/
def den (d : Decimal) : Nat :=
  Nat.pow 10 (-d.exponent).toNat

/-- Whether a decimal is read as the given number. -/
def readsAs (format : BinaryFormat) (x : Binary) (d : Decimal) : Bool :=
  Binary.nearest? format d.num d.den == some x

/-- The digits of a whole number. -/
def digitsOf (n : Nat) : List Char :=
  Nat.toDigits 10 n

/-- The exponent of the first digit of `num / den`, a number that is not zero. -/
def leadExponent (num den : Nat) : Int :=
  if den ≤ num then (digitsOf (num / den)).length - 1
  else
    let count := (digitsOf (den / num)).length
    if num * Nat.pow 10 (count - 1) == den then -((count : Int) - 1) else -(count : Int)

/-- The nearer of the two decimals with a last digit at `exponent` around `x` that are read as
`x`. -/
def around? (format : BinaryFormat) (x : Binary) (exponent : Int) : Option Decimal :=
  let num := x.num * Nat.pow 10 (-exponent).toNat
  let den := x.den * Nat.pow 10 exponent.toNat
  let below : Decimal := ⟨num / den, exponent⟩
  let above : Decimal := ⟨num / den + 1, exponent⟩
  match below.readsAs format x, above.readsAs format x with
  | true, true => some ⟨roundDiv num den, exponent⟩
  | true, false => some below
  | false, true => some above
  | false, false => none

/-- A decimal without zeros at the end of its digits. -/
def trimmed (d : Decimal) : Decimal :=
  let zeros := ((digitsOf d.digits).reverse.takeWhile (· == '0')).length
  if d.digits == 0 then ⟨0, 0⟩ else ⟨d.digits / Nat.pow 10 zeros, d.exponent + zeros⟩

/-- The shortest decimal that is read as the given number. -/
def shortest (format : BinaryFormat) (x : Binary) : Decimal :=
  if x.mantissa == 0 then ⟨0, 0⟩
  else
    let lead := leadExponent x.num x.den
    let found := (List.range 17).findSome? fun (count : Nat) =>
      around? format x (lead - count)
    (found.getD ⟨x.num, 0⟩).trimmed

/-- A decimal with the point in place, at least one digit on each side. -/
def fixedText (d : Decimal) : List Char :=
  let digits := digitsOf d.digits
  if 0 ≤ d.exponent then digits ++ List.replicate d.exponent.toNat '0' ++ ['.', '0']
  else
    let places := (-d.exponent).toNat
    if places < digits.length then
      digits.take (digits.length - places) ++ ['.'] ++ digits.drop (digits.length - places)
    else ['0', '.'] ++ List.replicate (places - digits.length) '0' ++ digits

/-- A decimal with one digit before the point and an exponent. -/
def exponentText (d : Decimal) : List Char :=
  let digits := digitsOf d.digits
  let exponent := d.exponent + digits.length - 1
  let fraction := if digits.length ≤ 1 then [] else '.' :: digits.drop 1
  let sign := if exponent < 0 then '-' else '+'
  digits.take 1 ++ fraction ++ ['e', sign] ++ digitsOf exponent.natAbs

/-- A decimal as the numbers of a format are written. -/
def text (format : BinaryFormat) (d : Decimal) : List Char :=
  let lead := d.exponent + (digitsOf d.digits).length - 1
  if format.leastFixed ≤ lead && lead ≤ format.greatestFixed then d.fixedText else d.exponentText

end Decimal

/-- The shortest text that is read as a number of a format. -/
def Binary.text (format : BinaryFormat) (x : Binary) : List Char :=
  (Decimal.shortest format x).text format

/-- A fraction with two decimal places. -/
def hundredthsText (num den : Nat) : List Char :=
  let hundredths := roundDiv (num * 100) den
  let places := Decimal.digitsOf (hundredths % 100)
  Decimal.digitsOf (hundredths / 100) ++ ['.'] ++
    (if places.length < 2 then '0' :: places else places)

end Locution
