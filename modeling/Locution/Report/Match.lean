import Locution.Engine
import Locution.Report.Mark

/-!
# Reports on single requests

The report on a request shows whether it was matched, the expression, the sentence with the found
part highlighted, the place and the tier, and what went wrong. Highlighting changes no character of
the sentence, even when the places of the finding do not fit it.
-/

namespace Locution.Report

/-- The sign for a match or none. -/
def sign (finding : Finding) : List Mark :=
  if finding.matched then styled (.ofColour .green) "✓" else styled (.ofColour .red) "✗"

/-- The characters of a sentence that a finding covers, if they lie in the sentence. -/
def coveredPart? (sentence : List Char) (finding : Finding) : Option (Nat × Nat) :=
  if finding.matched ∧ finding.start < finding.stop ∧ finding.stop ≤ sentence.length then
    some (finding.start, finding.stop)
  else none

/-- A sentence with the found part highlighted, on a line of its own. -/
def highlighted (sentence : String) (finding : Finding) : List Mark :=
  let chars := sentence.toList
  match coveredPart? chars finding with
  | some (start, stop) =>
    [.text (String.ofList (chars.take start)), .look .highlight,
      .text (String.ofList (Text.slice chars start stop)), .reset,
      .text (String.ofList (chars.drop stop)), .newline]
  | none => [.text sentence, .newline]

/-- The words for the place of a match and its tier. -/
def placeWords (finding : Finding) : String :=
  let word := finding.tier.word
  if finding.matched then
    let start := finding.start
    let stop := finding.stop
    s!"[{start}..{stop}) via {word}"
  else if finding.tier = .neither then "no match"
  else s!"no match via {word}"

/-- What went wrong, on a line of its own that begins with the given blanks. -/
def errorLine (blanks : String) (finding : Finding) : List Mark :=
  match finding.error with
  | some error => styled (.ofColour .red) (blanks ++ "Error: " ++ error ++ "\n")
  | none => []

/-- The report on a request. -/
def matchReport (request : Request) (finding : Finding) : List Mark :=
  sign finding ++ [.text " ", .text request.expression, .newline, .text "  "] ++
    highlighted request.sentence finding ++ [.text "  "] ++
    styled .faint (placeWords finding) ++ [.newline] ++ errorLine "  " finding

end Locution.Report
