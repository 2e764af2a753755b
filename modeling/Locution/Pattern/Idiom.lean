import Locution.Pattern.Piece
import Locution.Template.Elision
import Locution.Template.Segment

/-!
# From a template to a pattern

The template of an idiom is cut off at a closing elision, trimmed, and read into segments. Plain
text becomes itself and each slot becomes the piece for its kind. A wildcard directly after another
one adds nothing to the pattern, and wildcards with nothing else after them become a run to the end
of the clause. The pattern of a sequence of segments is built from the left with one bit of memory,
whether the segment before was a wildcard.
-/

namespace Locution

open Text

/-- An idiom made ready to be found in sentences. -/
structure Idiom where
  source : String
  pattern : Pattern
  /-- The markers of the template with what they stand for, in order. -/
  slots : List (List Char × Slot)
  /-- Whether the template contains plain text that is not blank. -/
  anchored : Bool

/-- The piece that a slot becomes; `closing` says that no plain text and no word follows. -/
def Slot.piece (slot : Slot) (closing : Bool) : Piece :=
  match slot with
  | .someone => .word
  | .possessive => .possessive
  | .something | .tilde | .ellipsis => if closing then .clause else .run

/-- The pieces of a sequence of segments that follows a wildcard or something else. -/
def piecesAfter (afterWildcard : Bool) : List Segment → Pattern
  | [] => []
  | .literal text :: rest => .literal text :: piecesAfter false rest
  | .slot kind _ :: rest =>
    if kind.isWildcard && afterWildcard then piecesAfter true rest
    else kind.piece (rest.all Segment.isWildcard) :: piecesAfter kind.isWildcard rest

namespace Segment

/-- The marker and the kind of a slot. -/
def slot? : Segment → Option (List Char × Slot)
  | .literal _ => none
  | .slot kind token => some (token, kind)

/-- Whether a segment is plain text that is not blank. -/
def anchors : Segment → Bool
  | .literal text => !text.all isSpace
  | .slot _ _ => false

end Segment

namespace Idiom

/-- The segments of an expression without the elision at its end and the white space around it. -/
def segmentsOf (rules : List SlotRule) (expression : String) : List Segment :=
  segments rules (trim (dropElision expression.toList))

/-- Makes an expression ready under a table of rules. -/
def ofExpression (rules : List SlotRule) (expression : String) : Idiom :=
  let parts := segmentsOf rules expression
  { source := expression
    pattern := piecesAfter false parts
    slots := parts.filterMap Segment.slot?
    anchored := parts.any Segment.anchors }

/-- Makes an expression ready under the standard rules. -/
def ofStandard (expression : String) : Idiom :=
  ofExpression standardRules expression

/-- Whether an idiom has nothing to look for. -/
def isEmpty (idiom : Idiom) : Bool :=
  idiom.pattern.isEmpty

end Idiom

end Locution
