import Locution.Finding

/-!
# Tallies

A tally counts the findings of a batch: all of them, those that match, and those of each tier.
-/

namespace Locution

/-- Counts of findings. -/
structure Tally where
  total : Nat
  matched : Nat
  pattern : Nat
  semantic : Nat
  neither : Nat
  deriving DecidableEq

namespace Tally

/-- The counts of no findings. -/
def zero : Tally := ⟨0, 0, 0, 0, 0⟩

/-- The counts with one more finding. -/
def count (tally : Tally) (finding : Finding) : Tally :=
  { total := tally.total + 1
    matched := if finding.matched then tally.matched + 1 else tally.matched
    pattern := if finding.tier = .pattern then tally.pattern + 1 else tally.pattern
    semantic := if finding.tier = .semantic then tally.semantic + 1 else tally.semantic
    neither := if finding.tier = .neither then tally.neither + 1 else tally.neither }

/-- The counts of a list of findings. -/
def ofFindings (findings : List Finding) : Tally :=
  findings.foldl count zero

/-- Whether every finding matches, as far as the counts tell. -/
def allMatched (tally : Tally) : Bool :=
  tally.matched == tally.total

end Tally

end Locution
