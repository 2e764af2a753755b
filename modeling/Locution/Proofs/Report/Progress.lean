import Locution.Proofs.Report.Coloured
import Locution.Report.Progress

/-! # The lines of the progress

While items are done, the count of a printer is that of the dots on the line that it is writing: one
dot more makes the line longer or fills it, and then the next one is begun (`add_of_short`,
`add_of_full`). So whatever was on the line before, the dots of a run come in full lines and a
shorter last one, and an empty line stands behind them (`exists_lines_progressReport`). A printer
begins on an empty line (`progressReport_in_lines`).
-/

namespace Locution.Report

/-- The sign that a finding leaves. -/
def dotSign (finding : Finding) : Char :=
  if finding.matched then '.' else if finding.error.isSome then 'E' else 'F'

/-- Whether signs are broken into lines of eighty, apart from a last one that is shorter but not
empty. -/
inductive InLines : List Char → List (List Char) → Prop where
  | none : InLines [] []
  | short {line : List Char} (begun : line ≠ []) (short : line.length < 80) : InLines line [line]
  | full {line signs : List Char} {lines : List (List Char)} (full : line.length = 80)
      (later : InLines signs lines) : InLines (line ++ signs) (line :: lines)

/-- Lines as they are written, each with its end. -/
def linesText (lines : List (List Char)) : List Char :=
  lines.flatMap (· ++ ['\n'])

/-- Each report is shown by one sign. -/
theorem plain_dot (finding : Finding) : (plain (dot finding)).toList = [dotSign finding] := by
  unfold dot dotSign
  split
  · rw [plain_styled]
    rfl
  · split
    · rw [plain_styled]
      rfl
    · rw [plain_styled]
      rfl

namespace Dots

variable {dots : Dots}

/-- A sign that does not fill the line is put behind the others. -/
theorem add_of_short (short : dots.count + 1 < 80) (finding : Finding) :
    dots.add finding = (dot finding, ⟨dots.count + 1⟩) :=
  if_neg (Nat.not_le_of_lt short)

/-- The sign that fills the line is followed by the end of the line. -/
theorem add_of_full (full : dots.count + 1 = 80) (finding : Finding) :
    dots.add finding = (dot finding ++ [.newline], none) :=
  if_pos (Nat.le_of_eq full.symm)

end Dots

/-- The progress of several reports is that of the first one, and that of the others from there. -/
theorem progressReport_cons (dots : Dots) (report : Nat × Finding)
    (reports : List (Nat × Finding)) :
    progressReport false dots (report :: reports) =
      (dots.add report.2).1 ++ progressReport false (dots.add report.2).2 reports :=
  rfl

/-- **The dots of a run come in lines**, of which the first goes on from what is on the line. -/
theorem exists_lines_progressReport {begun : List Char} (short : begun.length < 80)
    (reports : List (Nat × Finding)) :
    ∃ lines, InLines (begun ++ reports.map fun report => dotSign report.2) lines ∧
      begun ++ (plain (progressReport false ⟨begun.length⟩ reports)).toList =
        linesText lines ++ ['\n'] := by
  -- The printer counts the signs on the line, and the line is never full between two items.
  induction reports generalizing begun with
  | nil =>
      rw [List.map_nil, List.append_nil, progressReport, Dots.finish]
      by_cases empty : begun = []
      · rw [empty]
        exact ⟨[], .none, rfl⟩
      · refine ⟨[begun], .short empty short, ?_⟩
        have unfinished : begun.length ≠ 0 := fun none => empty (List.length_eq_zero_iff.mp none)
        rw [if_neg unfinished, linesText, List.flatMap_singleton, List.append_assoc]
        rfl
  | cons report reports ih =>
      have longer : (begun ++ [dotSign report.2]).length = begun.length + 1 :=
        List.length_append
      have signs : begun ++ (report :: reports).map (fun report => dotSign report.2) =
          begun ++ [dotSign report.2] ++ reports.map fun report => dotSign report.2 := by
        rw [List.map_cons, List.append_assoc, List.singleton_append]
      rw [progressReport_cons, signs]
      by_cases full : begun.length + 1 = 80
      · obtain ⟨lines, broken, shown⟩ := ih (by decide : ([] : List Char).length < 80)
        refine ⟨(begun ++ [dotSign report.2]) :: lines, .full (longer.trans full) broken, ?_⟩
        have ended : linesText ((begun ++ [dotSign report.2]) :: lines) =
            begun ++ [dotSign report.2] ++ ['\n'] ++ linesText lines := List.flatMap_cons
        rw [Dots.add_of_full full, plain_append, plain_append, String.toList_append,
          String.toList_append, plain_dot, ended, List.append_assoc _ (linesText lines), ← shown]
        simp only [List.append_assoc]
        rfl
      · have room : begun.length + 1 < 80 := by omega
        obtain ⟨lines, broken, shown⟩ := ih (longer.trans_lt room)
        refine ⟨lines, broken, ?_⟩
        rw [Dots.add_of_short room, plain_append, String.toList_append, plain_dot, ← shown, longer,
          List.append_assoc]

theorem isUnescaped_dot (finding : Finding) : IsUnescaped (dot finding) := by
  unfold dot
  split
  · exact isUnescaped_styled (by decide)
  · split
    · exact isUnescaped_styled (by decide)
    · exact isUnescaped_styled (by decide)

/-- The progress of a batch has no escapes. -/
theorem isUnescaped_progressReport (dots : Dots) (reports : List (Nat × Finding)) :
    IsUnescaped (progressReport false dots reports) := by
  induction reports generalizing dots with
  | nil =>
      rw [progressReport, Dots.finish]
      split
      · exact isUnescaped_newline
      · exact isUnescaped_newline.append isUnescaped_newline
  | cons report reports ih =>
      rw [progressReport_cons]
      refine IsUnescaped.append ?_ (ih _)
      unfold Dots.add
      split
      · exact (isUnescaped_dot report.2).append isUnescaped_newline
      · exact isUnescaped_dot report.2

/-- **The dots of a run come in lines of eighty.** Each item leaves its sign, in the order in which
the items are done. The signs are broken into lines of eighty, apart from a last one that may be
shorter but is not empty; each line has its end, and one empty line stands behind them all, also
when there are no items, and when the last line is full. In colour the sequences for the terminal
come between, and nothing else. -/
theorem progressReport_in_lines (reports : List (Nat × Finding)) :
    ∃ lines, InLines (reports.map fun report => dotSign report.2) lines ∧
      written false (progressReport false .none reports) =
        String.ofList (linesText lines ++ ['\n']) ∧
      uncoloured (written true (progressReport false .none reports)) =
        String.ofList (linesText lines ++ ['\n']) := by
  have empty : ([] : List Char).length < 80 := by decide
  obtain ⟨lines, broken, shown⟩ := exists_lines_progressReport empty reports
  have text : plain (progressReport false .none reports) =
      String.ofList (linesText lines ++ ['\n']) := by
    rw [← shown]
    exact (String.ofList_toList).symm
  refine ⟨lines, broken, text, ?_⟩
  rw [uncoloured_written true (isUnescaped_progressReport _ reports), text]

end Locution.Report
