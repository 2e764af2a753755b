/-!
# Sets of characters as ranges of code points

A property of characters is a list of inclusive ranges in increasing order. Membership reads the
list from the left and stops at the first range that begins above the character, so that common
characters are decided after a few comparisons.
-/

namespace Locution.Text

/-- Inclusive ranges of code points, in increasing order and apart from each other. -/
abbrev CodeRanges := List (Nat × Nat)

namespace CodeRanges

/-- Whether a code point lies in one of the ranges. -/
def containsCode : CodeRanges → Nat → Bool
  | [], _ => false
  | (first, last) :: ranges, code =>
    if code < first then false
    else if code ≤ last then true
    else containsCode ranges code

/-- Whether a character lies in one of the ranges. -/
def contains (ranges : CodeRanges) (c : Char) : Bool :=
  ranges.containsCode c.toNat

end CodeRanges

/-- Runs of code points with a common image: first, last, step, and the image of the first. The
run `(a, b, s, t)` sends `a + k * s` to `t + k * s` up to `b`. -/
abbrev CodeMap := List (Nat × Nat × Nat × Nat)

namespace CodeMap

/-- The image of a code point; one that lies in no run is its own image. -/
def imageCode : CodeMap → Nat → Nat
  | [], code => code
  | (first, last, step, image) :: runs, code =>
    if code < first then code
    else if code ≤ last && (code - first) % step == 0 then image + (code - first)
    else imageCode runs code

/-- The image of a character. -/
def image (runs : CodeMap) (c : Char) : Char :=
  Char.ofNat (runs.imageCode c.toNat)

end CodeMap

end Locution.Text
