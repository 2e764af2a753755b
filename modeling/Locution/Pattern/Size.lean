import Locution.Pattern.Piece

/-!
# The size of a pattern

A pattern that takes too much space is not searched for. How much space a pattern takes is a matter
of how the search is made ready, and is left open here: the search works with any measure that
does not look at the case of letters.
-/

namespace Locution

/-- A measure of the space that patterns take in a search. -/
class SearchSize where
  /-- The space that a pattern takes, in bytes. -/
  bytes : Pattern → Nat
  /-- Letters take the same space in both cases, since the search treats them alike. -/
  bytes_lowered (pattern : Pattern) : bytes (pattern.map Piece.lowered) = bytes pattern

namespace Pattern

/-- The most space that a pattern may take, in bytes. -/
def sizeLimit : Nat := 10485760

/-- Whether a pattern is small enough to be searched for. -/
def fits [SearchSize] (pattern : Pattern) : Bool :=
  SearchSize.bytes pattern ≤ sizeLimit

end Pattern

end Locution
