import Locution.Corpus.Scan
import Locution.Report.Summary

/-!
# Reports on scans

The report on a scan puts the records of each entry under one heading with the expression and the
number of the entry. A heading is written where the entry is not that of the record before.
-/

namespace Locution.Report

/-- The heading over the records of an entry. -/
def heading (record : Record) : List Mark :=
  let number := record.entryIndex + 1
  [.newline] ++ styled .strong record.expression ++ styled .faint s!" (#{number})\n"

/-- The lines for a record. -/
def recordLines (record : Record) : List Mark :=
  [.text "  "] ++ sign record.finding ++ [.text " "] ++ highlighted record.text record.finding ++
    (if record.verbatim then [] else styled .faint "    not verbatim\n") ++
    errorLine "    " record.finding

/-- The records after one of the entry `before`, with their headings. -/
def recordsAfter (before : Option Nat) : List Record → List Mark
  | [] => []
  | record :: records =>
    (if before = some record.entryIndex then [] else heading record) ++ recordLines record ++
      recordsAfter (some record.entryIndex) records

/-- How many records are shown, unless all are. -/
def shownLine (shown total : Nat) : List Mark :=
  if shown = total then [] else [.text s!"{shown} of {total} examples shown\n"]

/-- The report on the records that are shown, out of the given number. -/
def scanReport (records : List Record) (total : Nat) (elapsed : String) : List Mark :=
  recordsAfter none records ++ [.newline] ++ shownLine records.length total ++
    summary (Tally.ofFindings (records.map (·.finding))) elapsed

end Locution.Report
