import Locution.Batch.Tally
import Locution.Report.Match

/-!
# Reports on batches

The report on a batch is the report on each request and a summary of the counts. The elapsed time is
given as text.
-/

namespace Locution.Report

/-- The summary of the counts, after the given time. -/
def summary (tally : Tally) (elapsed : String) : List Mark :=
  let total := tally.total
  let pattern := tally.pattern
  let semantic := tally.semantic
  if tally.allMatched then
    [.look (.ofColour .green)] ++ styled .strong s!"All {total} matched" ++
      [.text s!" ({pattern} regex, {semantic} ai) in {elapsed}s\n"]
  else
    let matched := tally.matched
    let rest := total - matched
    styled .strong "Summary:" ++
      [.text (s!" {matched}/{total} matched ({pattern} regex, {semantic} ai), " ++
        s!"{rest} unmatched in {elapsed}s\n")]

/-- The report on a batch. -/
def batchReport (requests : List Request) (findings : List Finding) (elapsed : String) :
    List Mark :=
  (List.zipWith matchReport requests findings).flatten ++ [.newline] ++
    summary (Tally.ofFindings findings) elapsed

end Locution.Report
