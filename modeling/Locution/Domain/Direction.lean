import Locution.Domain.DirectionRanges

/-!
# Directions in a domain

Where letters from both directions meet, the parts of a domain could be shown in another order than
they are read. A part runs in one direction, that of its first letter, and holds and ends in only
what keeps its place beside the other parts.
-/

namespace Locution.Domain

open Text

/-- The direction in which a character is written. -/
inductive Direction where
  | leftToRight
  | rightToLeft
  | arabicNumber
  | europeanNumber
  /-- The direction of what surrounds the character. -/
  | sign
  /-- The direction of the letter below the mark. -/
  | mark
  deriving DecidableEq

namespace Direction

/-- The direction of a character. -/
def ofChar (c : Char) : Direction :=
  if rightToLeftRanges.contains c then .rightToLeft
  else if arabicNumberRanges.contains c then .arabicNumber
  else if europeanNumberRanges.contains c then .europeanNumber
  else if signRanges.contains c then .sign
  else if standingMarkRanges.contains c then .mark
  else .leftToRight

/-- Whether a direction turns a domain into one of mixed directions. -/
def turns : Direction → Bool
  | .rightToLeft | .arabicNumber => true
  | _ => false

/-- The last direction but for marks. -/
def last? (directions : List Direction) : Option Direction :=
  (directions.reverse.dropWhile (· == mark)).head?

/-- Whether directions that follow each other keep their place in a domain of mixed directions. -/
def fit (directions : List Direction) : Bool :=
  match directions with
  | [] => true
  | .rightToLeft :: _ =>
    !directions.contains leftToRight &&
      !(directions.contains europeanNumber && directions.contains arabicNumber) &&
      (last? directions).any [rightToLeft, europeanNumber, arabicNumber].contains
  | .leftToRight :: _ =>
    !directions.any turns && (last? directions).any [leftToRight, europeanNumber].contains
  | _ => false

end Direction

/-- Whether the parts of a domain keep their places: its directions are not mixed, or each part
fits. -/
def directionsFit (labels : List (List Char)) : Bool :=
  let directions := labels.map (List.map Direction.ofChar)
  !directions.any (List.any · Direction.turns) || directions.all Direction.fit

end Locution.Domain
