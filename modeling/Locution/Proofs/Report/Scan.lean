import Locution.Pattern.Estimate
import Locution.Proofs.Corpus.Coverage
import Locution.Proofs.Report.Plain

/-! # The report on a scan puts records under their entries

A heading is written where the entry is not that of the record before. Records that stand one entry
after the other are therefore shown entry by entry, each entry that has some under one heading
(`plain_recordsAfter_flatMap`). Those of a scan stand so, and so do any that are picked from them in
their order (`flatMap_filter_of_pairwise`). So a report shows under the heading of each entry the
records of that entry and no others (`Engine.scan_report_grouped`).
-/

namespace Locution

namespace Report

/-- The text for an entry with the records of it that are shown: nothing at all, or a heading with
the number of the entry and then the records. -/
def entryText (entry : Entry) (place : Nat) (own : List Record) : String :=
  if own = [] then ""
  else headingText entry.expression place ++ String.join (own.map recordText)

/-- Records that stand at one place behind another of it are shown without a heading. -/
theorem recordsAfter_append {own : List Record} {place : Nat}
    (there : ∀ record ∈ own, record.entryIndex = place) (later : List Record) :
    recordsAfter (some place) (own ++ later) =
      own.flatMap recordLines ++ recordsAfter (some place) later := by
  induction own with
  | nil => rfl
  | cons record own ih =>
      obtain ⟨rfl, there⟩ := List.forall_mem_cons.mp there
      rw [List.cons_append, recordsAfter, if_pos rfl, ih there, List.flatMap_cons, List.nil_append,
        List.append_assoc]

/-- The records of an entry that was not shown before come under a heading. -/
theorem plain_recordsAfter_append {own : List Record} {place : Nat} {entry : Entry}
    {before : Option Nat} (there : ∀ record ∈ own, record.entryIndex = place)
    (titled : ∀ record ∈ own, record.expression = entry.expression) (new : before ≠ some place)
    (later : List Record) :
    plain (recordsAfter before (own ++ later)) =
      entryText entry place own ++
        plain (recordsAfter (if own = [] then before else some place) later) := by
  cases own with
  | nil => exact (String.empty_append).symm
  | cons record own =>
      have following := recordsAfter_append (List.forall_mem_cons.mp there).2 later
      obtain rfl := (List.forall_mem_cons.mp there).1
      have title := (List.forall_mem_cons.mp titled).1
      rw [List.cons_append, recordsAfter, if_neg new, following, entryText,
        if_neg (List.cons_ne_nil _ _), if_neg (List.cons_ne_nil _ _), List.map_cons,
        String.join_cons]
      simp only [plain_append, plain_heading, plain_recordLines, plain_flatMap, title,
        String.append_assoc]

/-- **Records that stand entry by entry are shown entry by entry.** -/
theorem plain_recordsAfter_flatMap (own : Nat → List Record)
    (there : ∀ place, ∀ record ∈ own place, record.entryIndex = place) (entries : List Entry)
    (start : Nat) (before : Option Nat) (old : ∀ place, before = some place → place < start)
    (titled : ∀ slot ∈ entries.zipIdx start, ∀ record ∈ own slot.2,
      record.expression = slot.1.expression) :
    plain (recordsAfter before ((entries.zipIdx start).flatMap fun slot => own slot.2)) =
      String.join ((entries.zipIdx start).map fun slot =>
        entryText slot.1 slot.2 (own slot.2)) := by
  induction entries generalizing start before with
  | nil => rfl
  | cons entry entries ih =>
      obtain ⟨title, titled⟩ := List.forall_mem_cons.mp titled
      have new : before ≠ some start := fun same => Nat.lt_irrefl _ (old start same)
      rw [List.zipIdx_cons, List.flatMap_cons, List.map_cons, String.join_cons,
        plain_recordsAfter_append (there start) title new]
      -- The heading that was written last is that of this entry, or of one before it.
      have passed : ∀ place, (if own start = [] then before else some start) = some place →
          place < start + 1 := by
        intro place last
        split at last
        · exact Nat.lt_succ_of_lt (old place last)
        · exact Nat.lt_succ_of_le (Nat.le_of_eq (Option.some.inj last).symm)
      rw [ih (start + 1) _ passed titled]

end Report

section Order

variable {records : List Record}

/-- Records in the order of their entries begin with those of the first entry. -/
theorem filter_append_filter_of_pairwise
    (sorted : records.Pairwise fun first second => first.entryIndex ≤ second.entryIndex)
    {start : Nat} (least : ∀ record ∈ records, start ≤ record.entryIndex) :
    records.filter (·.entryIndex = start) ++ records.filter (·.entryIndex ≠ start) = records := by
  induction records with
  | nil => rfl
  | cons record records ih =>
      obtain ⟨earliest, sorted⟩ := List.pairwise_cons.mp sorted
      obtain ⟨from_start, least⟩ := List.forall_mem_cons.mp least
      by_cases first : record.entryIndex = start
      · have own : decide (record.entryIndex = start) = true := decide_eq_true first
        have other : decide (record.entryIndex ≠ start) = false := decide_eq_false (· first)
        rw [List.filter_cons, List.filter_cons, own, other, if_pos rfl, if_neg Bool.false_ne_true,
          List.cons_append, ih sorted least]
      · have passed : ∀ other ∈ record :: records, other.entryIndex ≠ start := by
          intro other member same
          rcases List.mem_cons.mp member with rfl | member
          · exact first same
          · have later := earliest other member
            omega
        rw [List.filter_eq_nil_iff.mpr, List.nil_append, List.filter_eq_self]
        · intro other member
          exact decide_eq_true (passed other member)
        · intro other member
          rw [decide_eq_true_eq]
          exact passed other member

/-- **Records in the order of their entries are those of each entry in turn.** -/
theorem flatMap_filter_of_pairwise
    (sorted : records.Pairwise fun first second => first.entryIndex ≤ second.entryIndex)
    (entries : List Entry) (start : Nat)
    (within : ∀ record ∈ records,
      start ≤ record.entryIndex ∧ record.entryIndex < start + entries.length) :
    ((entries.zipIdx start).flatMap fun slot =>
      records.filter (·.entryIndex = slot.2)) = records := by
  induction entries generalizing start records with
  | nil =>
      refine (List.eq_nil_iff_forall_not_mem.mpr fun record member => ?_).symm
      have bounds := within record member
      rw [List.length_nil] at bounds
      omega
  | cons entry entries ih =>
      have rest : ∀ record ∈ records.filter (·.entryIndex ≠ start),
          start + 1 ≤ record.entryIndex ∧
            record.entryIndex < start + 1 + entries.length := by
        intro record member
        obtain ⟨member, differs⟩ := List.mem_filter.mp member
        have bounds := within record member
        have differs : record.entryIndex ≠ start := of_decide_eq_true differs
        rw [List.length_cons] at bounds
        omega
      have same : ∀ slot ∈ entries.zipIdx (start + 1),
          (records.filter (·.entryIndex ≠ start)).filter (·.entryIndex = slot.2) =
            records.filter (·.entryIndex = slot.2) := by
        intro slot member
        have later := List.le_snd_of_mem_zipIdx member
        rw [List.filter_filter]
        apply List.filter_congr
        intro record _
        rw [Bool.and_eq_left_iff_imp]
        intro there
        have there : record.entryIndex = slot.2 := of_decide_eq_true there
        apply decide_eq_true
        omega
      rw [List.zipIdx_cons, List.flatMap_cons, ← List.flatMap_congr same,
        ih (sorted.filter _) (start + 1) rest]
      exact filter_append_filter_of_pairwise sorted fun record member => (within record member).1

end Order

namespace Engine

section Records

variable [SearchSize] {σ : Type} (engine : Engine σ) (fallback : Bool) (pace : Pace)
  (corpus : Corpus) (desk : Desk σ)

/-- The records of a scan come in the order of their entries, so those of one entry stand
together. -/
theorem pairwise_entryIndex_scan :
    (engine.scan fallback pace corpus desk).1.Pairwise fun first second =>
      first.entryIndex ≤ second.entryIndex := by
  have sorted : ((engine.scan fallback pace corpus desk).1.map Record.place).Pairwise
      PlaceOrder := by
    rw [engine.place_scan, List.pairwise_map]
    exact corpus.pairwise_place_samples
  rw [List.pairwise_map] at sorted
  apply sorted.imp
  intro first second before
  rcases Prod.lex_def.mp before with earlier | ⟨same, _⟩
  · exact Nat.le_of_lt earlier
  · exact Nat.le_of_eq same

/-- The record of an example bears the expression of its entry. -/
theorem exists_entry_of_mem_scan {record : Record}
    (member : record ∈ (engine.scan fallback pace corpus desk).1) :
    ∃ entry, corpus[record.entryIndex]? = some entry ∧ record.expression = entry.expression := by
  obtain ⟨sample, listed, memory, rfl⟩ :=
    exists_mem_related (engine.forall₂_scan fallback pace corpus desk) member
  obtain ⟨entry, sentence, there, _, asked⟩ := Corpus.mem_samples_iff.mp listed
  exact ⟨entry, there, congrArg Request.expression asked⟩

/-- **The report on a scan shows each entry once, with its own records.** Let any of the records of
a scan be shown, in their order. Without colours the report goes through the entries of the corpus.
An entry without a shown record is left out. Every other has one heading, with its number counted
from one, and under it the records of this entry that are shown, each with all of its text. No
record is left out or shown twice, so entries with one expression stand apart. Behind them the
counts of the shown records follow. The mismatches are such records. -/
theorem scan_report_grouped {shown : List Record}
    (chosen : shown.Sublist (engine.scan fallback pace corpus desk).1) (total : Nat)
    (elapsed : String) :
    Report.written false (Report.scanReport shown total elapsed) =
      String.join (corpus.zipIdx.map fun (entry, place) =>
        Report.entryText entry place (shown.filter (·.entryIndex = place))) ++ "\n" ++
      Report.shownText shown.length total ++
      Report.summaryText (shown.map (·.finding)) elapsed ∧
    (corpus.zipIdx.flatMap fun (_, place) => shown.filter (·.entryIndex = place)) = shown ∧
    (mismatches (engine.scan fallback pace corpus desk).1).Sublist
      (engine.scan fallback pace corpus desk).1 := by
  have entered : ∀ record ∈ shown, ∃ entry, corpus[record.entryIndex]? = some entry ∧
      record.expression = entry.expression := fun record member =>
    engine.exists_entry_of_mem_scan fallback pace corpus desk (chosen.subset member)
  have parted : (corpus.zipIdx.flatMap fun (_, place) =>
      shown.filter (·.entryIndex = place)) = shown := by
    apply flatMap_filter_of_pairwise
      ((engine.pairwise_entryIndex_scan fallback pace corpus desk).sublist chosen)
    intro record member
    obtain ⟨entry, there, _⟩ := entered record member
    obtain ⟨within, _⟩ := List.getElem?_eq_some_iff.mp there
    exact ⟨Nat.zero_le _, (Nat.zero_add _).symm ▸ within⟩
  have there : ∀ place, ∀ record ∈ shown.filter (·.entryIndex = place),
      record ∈ shown ∧ record.entryIndex = place := by
    intro place record member
    rwa [List.mem_filter, decide_eq_true_eq] at member
  have titled : ∀ slot ∈ corpus.zipIdx, ∀ record ∈ shown.filter (·.entryIndex = slot.2),
      record.expression = slot.1.expression := by
    rintro ⟨entry, place⟩ slot record member
    obtain ⟨listed, rfl⟩ := there place record member
    obtain ⟨other, found, title⟩ := entered record listed
    rw [List.mem_zipIdx_iff_getElem?.mp slot] at found
    rw [title, Option.some.inj found]
  have grouped := Report.plain_recordsAfter_flatMap
    (fun place => shown.filter (·.entryIndex = place))
    (fun place record member => (there place record member).2) corpus 0 none (fun _ => nofun) titled
  rw [parted] at grouped
  refine ⟨?_, parted, List.filter_sublist⟩
  simp only [Report.written, Bool.false_eq_true, ↓reduceIte, Report.scanReport,
    Report.plain_append, grouped, Report.plain_shownLine, Report.plain_summary, Report.Mark.newline,
    Report.plain_singleton]

end Records

/-- Of four entries the first and the last have mismatches, and they stand apart though their
expressions are the same. -/
theorem scan_report_grouped_repeated :
    let engine : Engine Unit := ⟨none⟩
    let entry : String → List String → Entry := fun expression texts =>
      ⟨expression, none, none, none, none, texts.map (⟨·, none⟩)⟩
    let corpus : Corpus := [entry "on board" [" ", "on board"], entry "in full" [],
      entry "on board" ["on board"], entry "on board" [" "]]
    let records := (engine.scan false .sequential corpus (Desk.ofMemory ())).1
    (mismatches records).Sublist records ∧
      Report.written false (Report.scanReport (mismatches records) 4 "0.00") =
        "\non board (#1)\n  ✗  \n    not verbatim\n    Error: Missing expression or sentence\n" ++
        "\non board (#4)\n  ✗  \n    not verbatim\n    Error: Missing expression or sentence\n" ++
        "\n2 of 4 examples shown\n" ++
        "Summary: 0/2 matched (0 regex, 0 ai), 2 unmatched in 0.00s\n" := by
  intro engine entry corpus records
  have chosen : (mismatches records).Sublist records := List.filter_sublist
  refine ⟨chosen, ?_⟩
  rw [(scan_report_grouped engine false .sequential corpus (Desk.ofMemory ()) chosen 4 "0.00").1]
  decide +kernel

end Engine

end Locution
