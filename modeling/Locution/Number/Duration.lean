import Locution.Number.Decimal

/-!
# Durations

Durations are whole numbers of nanoseconds. Messages write them in the largest unit of which they
hold at least one; reports write them in seconds with two places, as a binary number of 64 bits has
them.
-/

namespace Locution

/-- A span of time in nanoseconds. -/
structure Duration where
  nanos : Nat
  deriving DecidableEq

namespace Duration

/-- A duration of whole seconds. -/
def ofSeconds (seconds : Nat) : Duration := ⟨seconds * 1000000000⟩

/-- The whole units of a count of nanoseconds, and the rest as decimal places without closing
zeros. -/
def unitText (nanos unit : Nat) : List Char :=
  let width := (Decimal.digitsOf unit).length - 1
  let places := Decimal.digitsOf (unit + nanos % unit)
  let fraction := ((places.drop (places.length - width)).reverse.dropWhile (· == '0')).reverse
  Decimal.digitsOf (nanos / unit) ++ (if fraction.isEmpty then [] else '.' :: fraction)

/-- A duration in the largest unit of which it holds at least one. -/
def text (d : Duration) : String :=
  if 1000000000 ≤ d.nanos then String.ofList (unitText d.nanos 1000000000) ++ "s"
  else if 1000000 ≤ d.nanos then String.ofList (unitText d.nanos 1000000) ++ "ms"
  else if 1000 ≤ d.nanos then String.ofList (unitText d.nanos 1000) ++ "µs"
  else String.ofList (Decimal.digitsOf d.nanos) ++ "ns"

/-- A duration in seconds with two places. The whole seconds and the rest are each rounded to a
binary number before they are added. -/
def secondsText (d : Duration) : String :=
  let whole := Binary.nearest? doubleFormat (d.nanos / 1000000000) 1
  let part := Binary.nearest? doubleFormat (d.nanos % 1000000000) 1000000000
  match whole, part with
  | some whole, some part =>
    let sum := (Binary.add? doubleFormat whole part).getD whole
    String.ofList (hundredthsText sum.num sum.den)
  | _, _ => String.ofList (hundredthsText d.nanos 1000000000)

end Duration

end Locution
