import Locution.Report.Match

/-!
# Progress

While a batch is worked through, every item that is done leaves a dot, or a line if more is to be
said. Dots are broken into lines of eighty.
-/

namespace Locution.Report

/-- How many dots stand on the line that is being written. -/
structure Dots where
  count : Nat
  deriving DecidableEq

/-- How many dots a line holds. -/
def dotsPerLine : Nat := 80

/-- The dot for a finding. -/
def dot (finding : Finding) : List Mark :=
  if finding.matched then styled (.ofColour .green) "."
  else if finding.error.isSome then styled (.ofColour .red) "E"
  else styled (.ofColour .red) "F"

namespace Dots

/-- The beginning of a line. -/
def none : Dots := ⟨0⟩

/-- Writes a dot, and ends the line when it is full. -/
def add (dots : Dots) (finding : Finding) : List Mark × Dots :=
  if dotsPerLine ≤ dots.count + 1 then (dot finding ++ [.newline], none)
  else (dot finding, ⟨dots.count + 1⟩)

/-- Ends the line and writes an empty one. -/
def finish (dots : Dots) : List Mark × Dots :=
  if dots.count = 0 then ([.newline], none) else ([.newline, .newline], none)

end Dots

/-- The line for an item that is done. -/
def progressLine (index : Nat) (finding : Finding) : List Mark :=
  let number := index + 1
  sign finding ++ [.text s!" #{number} "] ++ styled .faint (finding.tier.word ++ "\n")

/-- The marks for an item that is done. -/
def progress (verbose : Bool) (dots : Dots) (report : Nat × Finding) : List Mark × Dots :=
  if verbose then (progressLine report.1 report.2, dots) else dots.add report.2

/-- The marks for items that are done one after the other, and for the end. -/
def progressReport (verbose : Bool) : Dots → List (Nat × Finding) → List Mark
  | dots, [] => dots.finish.1
  | dots, report :: reports =>
    let (marks, dots) := progress verbose dots report
    marks ++ progressReport verbose dots reports

end Locution.Report
