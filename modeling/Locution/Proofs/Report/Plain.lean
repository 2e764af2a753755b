import Locution.Proofs.Batch.Tally
import Locution.Proofs.Text.Range
import Locution.Report.Scan

/-! # Reports without colours

Without colours a report is the text of its marks. Highlighting leaves a sentence as it is
(`plain_highlighted`), whatever the finding covers. So the lines for a record are its sign and its
text with what is to be said about them (`plain_recordLines`), and a summary is the counts of the
findings in words (`plain_summary`).
-/

namespace Locution.Report

open Text

/-- The text that stands for a match or none. -/
def signText (finding : Finding) : String :=
  if finding.matched then "✓" else "✗"

/-- The text for a record: its sign, all of its text, whether the expression does not stand in it
word for word, and what went wrong. -/
def recordText (record : Record) : String :=
  "  " ++ signText record.finding ++ " " ++ record.text ++ "\n" ++
    (if record.verbatim then "" else "    not verbatim\n") ++
    record.finding.error.elim "" fun error => "    Error: " ++ error ++ "\n"

/-- The text over the records of an entry. -/
def headingText (expression : String) (place : Nat) : String :=
  "\n" ++ expression ++ s!" (#{place + 1})\n"

/-- The text for how many examples are shown, unless all are. -/
def shownText (shown total : Nat) : String :=
  if shown = total then "" else s!"{shown} of {total} examples shown\n"

/-- The counts of findings in words. -/
def summaryText (findings : List Finding) (elapsed : String) : String :=
  let total := findings.length
  let matched := findings.countP (·.matched)
  let rest := findings.countP (!·.matched)
  let pattern := findings.countP (·.tier = .pattern)
  let semantic := findings.countP (·.tier = .semantic)
  if findings.all (·.matched) then
    s!"All {total} matched" ++ s!" ({pattern} regex, {semantic} ai)" ++ s!" in {elapsed}s\n"
  else
    s!"Summary: {matched}/{total} matched" ++ s!" ({pattern} regex, {semantic} ai)" ++
      s!", {rest} unmatched in {elapsed}s\n"

/-- The plain form goes on mark by mark. -/
theorem plain_cons (mark : Mark) (marks : List Mark) :
    plain (mark :: marks) = mark.plain ++ plain marks :=
  plain_append [mark] marks

theorem plain_nil : plain [] = "" :=
  rfl

theorem plain_singleton (words : String) : plain [.text words] = words := by
  rw [plain_cons, plain_nil, String.append_empty, Mark.plain]

/-- The plain form of the marks of several items is that of the items in turn. -/
theorem plain_flatMap {α : Type} (items : List α) (marks : α → List Mark) :
    plain (items.flatMap marks) = String.join (items.map fun item => plain (marks item)) := by
  induction items with
  | nil => rfl
  | cons item items ih =>
      rw [List.flatMap_cons, plain_append, ih, List.map_cons, String.join_cons]

theorem plain_sign (finding : Finding) : plain (sign finding) = signText finding := by
  unfold sign signText
  split <;> exact plain_styled _ _

/-- The covered part of a sentence is not empty and lies in the sentence. -/
theorem covered_of_coveredPart? {sentence : List Char} {finding : Finding} {start stop : Nat}
    (covered : coveredPart? sentence finding = some (start, stop)) :
    start < stop ∧ stop ≤ sentence.length := by
  unfold coveredPart? at covered
  split at covered
  · rename_i within
    cases covered
    exact within.2
  · cases covered

/-- A sentence of which a part is covered is shown in three parts. -/
theorem exists_parts_of_coveredPart? {sentence : String} {finding : Finding} {start stop : Nat}
    (covered : coveredPart? sentence.toList finding = some (start, stop)) :
    ∃ before inside after, sentence = before ++ inside ++ after ∧ before.toList.length = start ∧
      before.toList.length + inside.toList.length = stop ∧
      highlighted sentence finding = [.text before, .look .highlight, .text inside, .reset,
        .text after, .newline] := by
  obtain ⟨ordered, within⟩ := covered_of_coveredPart? covered
  obtain ⟨before, inside, after, split, rfl, rfl⟩ := exists_parts (Nat.le_of_lt ordered) within
  have first : (before ++ inside ++ after).take before.length = before := by
    rw [List.append_assoc, List.take_left]
  have last : (before ++ inside ++ after).drop (before.length + inside.length) = after := by
    rw [← List.length_append, List.drop_left]
  refine ⟨String.ofList before, String.ofList inside, String.ofList after, ?_, ?_, ?_, ?_⟩
  · rw [← String.ofList_append, ← String.ofList_append, ← split, String.ofList_toList]
  · rw [String.toList_ofList]
  · rw [String.toList_ofList, String.toList_ofList]
  · simp only [highlighted, covered]
    rw [split, first, slice_append, last]

/-- A sentence without a covered part is shown as it is. -/
theorem highlighted_of_not_covered {sentence : String} {finding : Finding}
    (uncovered : coveredPart? sentence.toList finding = none) :
    highlighted sentence finding = [.text sentence, .newline] := by
  simp only [highlighted, uncovered]

/-- **Highlighting leaves a sentence as it is**, wherever the finding begins and ends. -/
theorem plain_highlighted (sentence : String) (finding : Finding) :
    plain (highlighted sentence finding) = sentence ++ "\n" := by
  cases covered : coveredPart? sentence.toList finding with
  | none =>
      rw [highlighted_of_not_covered covered]
      rfl
  | some part =>
      obtain ⟨before, inside, after, split, _, _, shown⟩ := exists_parts_of_coveredPart? covered
      rw [shown, split]
      simp only [plain_cons, plain_nil, Mark.plain, Mark.newline, String.empty_append,
        String.append_empty, String.append_assoc]

/-- The line of an error is there only if there is an error. -/
theorem plain_errorLine (finding : Finding) :
    plain (errorLine "    " finding) =
      finding.error.elim "" fun error => "    Error: " ++ error ++ "\n" := by
  unfold errorLine
  split
  · rename_i error failed
    rw [plain_styled, failed, Option.elim_some]
    rfl
  · rename_i none
    rw [none]
    rfl

/-- A record is shown with all of its text. -/
theorem plain_recordLines (record : Record) : plain (recordLines record) = recordText record := by
  have remark : plain (if record.verbatim then [] else styled .faint "    not verbatim\n") =
      if record.verbatim then "" else "    not verbatim\n" := by
    split
    · rfl
    · exact plain_styled _ _
  simp only [recordLines, recordText, plain_append, plain_sign, plain_highlighted,
    plain_errorLine, remark, plain_singleton, String.append_assoc]

theorem plain_heading (record : Record) :
    plain (heading record) = headingText record.expression record.entryIndex := by
  simp only [heading, plain_append, plain_styled]
  rfl

theorem plain_shownLine (shown total : Nat) :
    plain (shownLine shown total) = shownText shown total := by
  unfold shownLine shownText
  split
  · rfl
  · exact plain_singleton _

/-- A summary is written from the counts of the findings. -/
theorem plain_summary (findings : List Finding) (elapsed : String) :
    plain (summary (Tally.ofFindings findings) elapsed) = summaryText findings elapsed := by
  have rest : findings.length - findings.countP (·.matched) = findings.countP (!·.matched) := by
    rw [List.length_eq_countP_add_countP (·.matched), Nat.add_sub_cancel_left]
    simp only [Bool.not_eq_true, Bool.decide_eq_false]
  have all := Tally.allMatched_ofFindings findings
  rw [Tally.ofFindings_eq] at all ⊢
  simp only [summary, summaryText, all, rest]
  have began : " ai) in " = " ai)" ++ " in " := rfl
  have parted : " ai), " = " ai)" ++ ", " := rfl
  have opened : "Summary: " = "Summary:" ++ " " := rfl
  have counted : " matched (" = " matched" ++ " (" := rfl
  split
  · simp only [plain_append, plain_styled, plain_cons, plain_nil, Mark.plain, String.empty_append,
      String.append_empty, String.append_assoc, toString, began]
  · simp only [plain_append, plain_styled, plain_singleton, String.append_assoc, toString, parted,
      opened, counted]

end Locution.Report
