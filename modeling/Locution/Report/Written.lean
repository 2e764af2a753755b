import Locution.Batch.Tally
import Locution.Corpus.Scan
import Locution.Json.Printer
import Locution.Semantic.Reply

/-!
# Results as JSON

Results are written as JSON values, spread over lines. Fields stand in the order of the result; the
fields of a pattern stand in alphabetic order.
-/

namespace Locution

open Json (Value)

/-- A finding as a value; an error stands only where there is one. -/
def Finding.toValue (finding : Finding) : Value :=
  .object ([("matched", .bool finding.matched), ("start_index", .ofNat finding.start),
    ("end_index", .ofNat finding.stop), ("matched_text", .string finding.text),
    ("method", .string finding.tier.word)] ++
    match finding.error with
    | some error => [("error", .string error)]
    | none => [])

/-- The findings of a batch and their counts as a value. -/
def batchValue (findings : List Finding) : Value :=
  let tally := Tally.ofFindings findings
  .object [("results", .list (findings.map Finding.toValue)), ("total", .ofNat tally.total),
    ("matched_count", .ofNat tally.matched), ("regex_count", .ofNat tally.pattern),
    ("ai_count", .ofNat tally.semantic), ("none_count", .ofNat tally.neither)]

/-- A record of a scan as a value. -/
def Record.toValue (record : Record) : Value :=
  .object [("entry", .ofNat record.entryIndex), ("example", .ofNat record.exampleIndex),
    ("expression", .string record.expression), ("text", .string record.text),
    ("verbatim", .bool record.verbatim), ("result", record.finding.toValue)]

/-- The records of a scan as a value. -/
def scanValue (records : List Record) : Value :=
  .list (records.map Record.toValue)

/-- An idiom as a value. -/
def Idiom.toValue (idiom : Idiom) : Value :=
  .object [("expression", .string idiom.source), ("pattern", .string idiom.pattern.printed),
    ("substitutions", .list (idiom.slots.map fun (token, slot) =>
      .object [("placeholder", .string slot.name), ("token", .string (String.ofList token))])),
    ("unanchored", .bool !idiom.anchored)]

/-- A value spread over lines, with the end of its last line. -/
def Json.Value.lines (value : Value) : String :=
  value.spreadText ++ "\n"

end Locution
