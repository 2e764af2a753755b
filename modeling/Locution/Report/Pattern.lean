import Locution.Pattern.Idiom
import Locution.Report.Mark

/-!
# Reports on patterns

The report on an expression shows its pattern, the slots in order, and a warning when the pattern
can match nothing or nearly everything.
-/

namespace Locution.Report

/-- The line for a slot that stands at the given place. -/
def slotLine (index : Nat) (slot : List Char × Slot) : Mark :=
  let number := index + 1
  let token := String.ofList slot.1
  let name := slot.2.name
  .text (s!"  {number}. {token} -> {name}\n")

/-- The lines for the slots. -/
def slotLines (slots : List (List Char × Slot)) : List Mark :=
  if slots.isEmpty then [.text "No placeholders\n"] else slots.mapIdx slotLine

/-- The warning about an idiom. -/
def warning (idiom : Idiom) : List Mark :=
  if idiom.isEmpty then styled (.ofColour .yellow) "Empty pattern: nothing can match\n"
  else if idiom.anchored then []
  else styled (.ofColour .yellow) "Warning: no literal anchor, matches will be imprecise\n"

/-- The report on an idiom. -/
def patternReport (idiom : Idiom) : List Mark :=
  styled .strong "Pattern:" ++ [.text (" " ++ idiom.pattern.printed ++ "\n")] ++
    slotLines idiom.slots ++ warning idiom

end Locution.Report
