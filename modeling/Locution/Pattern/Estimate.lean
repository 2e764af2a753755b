import Locution.Pattern.Size

/-!
# An estimate of the size of a pattern

The measure with which the program runs. It adds up what the pieces take, which is a rough guess:
nothing is known about it but that the case of letters plays no part.
-/

namespace Locution

/-- The space that a piece takes, roughly, in bytes. Word characters are spread over the whole code
space, so a piece that asks for them takes as much space as many others. -/
def Piece.estimate : Piece → Nat
  | .literal text => 48 * text.length
  | .word => 48000
  | .possessive => 2000
  | .run => 600
  | .clause => 4000

/-- A piece has the same estimate in small letters. -/
theorem Piece.estimate_lowered (piece : Piece) : piece.lowered.estimate = piece.estimate := by
  cases piece with
  | literal text => simp only [lowered, estimate, List.length_map]
  | word | possessive | run | clause => rfl

/-- The space that a pattern takes, roughly: what its pieces take together. -/
def Pattern.estimate (pattern : Pattern) : Nat :=
  pattern.foldr (fun piece total => piece.estimate + total) 0

/-- A pattern has the same estimate in small letters, as every size of patterns has to. -/
theorem Pattern.estimate_lowered (pattern : Pattern) :
    estimate (pattern.map Piece.lowered) = pattern.estimate := by
  simp only [estimate, List.foldr_map, Piece.estimate_lowered]

instance : SearchSize where
  bytes := Pattern.estimate
  bytes_lowered := Pattern.estimate_lowered

end Locution
