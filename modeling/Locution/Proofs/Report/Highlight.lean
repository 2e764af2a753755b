import Locution.Pattern.Estimate
import Locution.Proofs.Report.Coloured
import Locution.Proofs.Soundness

/-! # Highlighting

A sentence is shown in three parts around the characters that a finding covers, or as a whole when
the finding covers none of them. The parts can be cut at the bytes that those characters take up:
whatever places a finding states, no cut is refused (`highlightedByBytes?_eq`). In colour two
sequences stand between the parts, and without them the sentence is left as it was. A match that an
engine finds in a sentence covers exactly its text (`Engine.highlighting_keeps_sentence`).
-/

namespace Locution

open Text

namespace Report

/-- The parts of a text before a range of its bytes, inside and behind. There are none when the
range is reversed, or a place does not lie between characters. -/
def partsAt? (text : List Char) (first last : Nat) :
    Option (List Char × List Char × List Char) := do
  let (upTo, after) ← cutAt? text last
  let (before, inside) ← cutAt? upTo first
  return (before, inside, after)

/-- A sentence with the found part highlighted, cut at its bytes. -/
def highlightedByBytes? (sentence : String) (finding : Finding) : Option (List Mark) :=
  let range :=
    if finding.matched then byteRange? sentence.toList finding.start finding.stop else none
  match range with
  | some (first, last) => do
    let (before, inside, after) ← partsAt? sentence.toList first last
    return [.text (String.ofList before), .look .highlight, .text (String.ofList inside), .reset,
      .text (String.ofList after), .newline]
  | none => some [.text sentence, .newline]

variable {sentence : String} {finding : Finding}

/-- A text that is cut at the bytes where two of its parts meet gives these parts. -/
theorem partsAt?_append (before inside after : List Char) :
    partsAt? (before ++ inside ++ after) (byteLength before) (byteLength (before ++ inside)) =
      some (before, inside, after) := by
  have last := cutAt?_append (before ++ inside) after
  have first := cutAt?_append before inside
  simp only [partsAt?, last, first, Option.bind_eq_bind, Option.bind_some, Option.pure_def]

/-- The bytes that a finding covers are those of the characters that it covers. -/
theorem byteRange_of_finding (sentence : List Char) (finding : Finding) :
    (if finding.matched then byteRange? sentence finding.start finding.stop else none) =
      (coveredPart? sentence finding).map fun part =>
        (byteLength (sentence.take part.1), byteLength (sentence.take part.2)) := by
  unfold coveredPart? byteRange?
  by_cases matched : finding.matched = true
  · simp only [matched, ↓reduceIte, true_and]
    split
    · rfl
    · rfl
  · simp only [matched, Bool.false_eq_true, ↓reduceIte, false_and, Option.map_none]

/-- **No cut at the bytes of a finding is refused**, wherever the finding begins and ends. -/
theorem highlightedByBytes?_eq (sentence : String) (finding : Finding) :
    highlightedByBytes? sentence finding = some (highlighted sentence finding) := by
  rw [highlightedByBytes?, byteRange_of_finding]
  cases covered : coveredPart? sentence.toList finding with
  | none =>
      rw [highlighted_of_not_covered covered]
      rfl
  | some part =>
      obtain ⟨before, inside, after, split, first, last, shown⟩ :=
        exists_parts_of_coveredPart? covered
      have chars : sentence.toList = before.toList ++ inside.toList ++ after.toList := by
        rw [split, String.toList_append, String.toList_append]
      have parts := take_parts before.toList inside.toList after.toList
      rw [Option.map_some, ← first, ← last, chars, parts.1, parts.2]
      simp only [partsAt?_append, Option.bind_eq_bind, Option.bind_some, Option.pure_def,
        String.ofList_toList, shown]

/-- A highlighted sentence has no escapes if the sentence has none. -/
theorem isUnescaped_highlighted (unescaped : '\x1b' ∉ sentence.toList) :
    IsUnescaped (highlighted sentence finding) := by
  cases covered : coveredPart? sentence.toList finding with
  | none =>
      rw [highlighted_of_not_covered covered]
      exact .text unescaped isUnescaped_newline
  | some part =>
      obtain ⟨before, inside, after, split, _, _, shown⟩ := exists_parts_of_coveredPart? covered
      simp only [split, String.toList_append, List.mem_append, not_or] at unescaped
      obtain ⟨⟨first, second⟩, third⟩ := unescaped
      rw [shown]
      exact .text first (.look (.text second (.reset (.text third isUnescaped_newline))))

/-- The part of a sentence that a match covers is the text that it states. -/
theorem highlighted_of_sound (sound : finding.Sound sentence) (matched : finding.matched = true) :
    ∃ before after, sentence = before ++ finding.text ++ after ∧
      before.toList.length = finding.start ∧
      highlighted sentence finding = [.text before, .look .highlight, .text finding.text, .reset,
        .text after, .newline] := by
  obtain ⟨ordered, within, stated, _⟩ := sound.matched matched
  have covered : coveredPart? sentence.toList finding = some (finding.start, finding.stop) :=
    if_pos ⟨matched, ordered, within⟩
  obtain ⟨before, inside, after, split, first, last, shown⟩ := exists_parts_of_coveredPart? covered
  have same : finding.text = inside := by
    rw [← String.toList_inj, stated, split, String.toList_append, String.toList_append, ← first,
      ← last, slice_append]
  rw [same]
  exact ⟨before, after, split, first, shown⟩

/-- In colour a sentence stands as it is, or with sequences on both sides of a part of it. -/
theorem coloured_highlighted (sentence : String) (finding : Finding) :
    written true (highlighted sentence finding) = sentence ++ "\n" ∨
      ∃ before inside after, sentence = before ++ inside ++ after ∧
        written true (highlighted sentence finding) =
          before ++ "\x1b[0m\x1b[1m\x1b[33m" ++ inside ++ "\x1b[0m" ++ after ++ "\n" := by
  cases covered : coveredPart? sentence.toList finding with
  | none =>
      left
      rw [highlighted_of_not_covered covered]
      simp only [written, coloured, ↓reduceIte, List.map_cons, List.map_nil, Mark.coloured_text,
        Mark.newline, String.join_cons, String.join_nil, String.append_empty]
  | some part =>
      right
      obtain ⟨before, inside, after, split, _, _, shown⟩ := exists_parts_of_coveredPart? covered
      refine ⟨before, inside, after, split, ?_⟩
      rw [shown]
      simp only [written, coloured, ↓reduceIte, List.map_cons, List.map_nil, Mark.coloured_text,
        Mark.coloured_look, Mark.coloured_reset, Look.sequences_highlight, Mark.newline,
        String.join_cons, String.join_nil, String.append_empty, String.append_assoc]

end Report

namespace Engine

variable {σ : Type} {sentence : String} {finding : Finding}

/-- Whether an engine comes to a finding on a sentence: when it settles a request or looks for its
pattern only, in a batch or in a scan. -/
inductive Finds [SearchSize] (engine : Engine σ) (desk : Desk σ) : String → Finding → Prop where
  | request {fallback : Bool} {request : Request} {finding : Finding}
      (found : (engine.find fallback request desk).1 = .ok finding) :
      Finds engine desk request.sentence finding
  | pattern {request : Request} {finding : Finding}
      (found : (engine.tryPattern request desk).1 = some finding) :
      Finds engine desk request.sentence finding
  | batch {fallback : Bool} {pace : Pace} {requests : List Request} {index : Nat}
      {request : Request} {finding : Finding} (asked : requests[index]? = some request)
      (found : (engine.runBatch fallback pace requests desk).1.findings[index]? = some finding) :
      Finds engine desk request.sentence finding
  | scan {fallback : Bool} {pace : Pace} {corpus : Corpus} {record : Record}
      (listed : record ∈ (engine.scan fallback pace corpus desk).1) :
      Finds engine desk record.text record.finding

/-- Whatever is found is sound, by whichever way it is found. -/
theorem Finds.sound [SearchSize] {engine : Engine σ} {desk : Desk σ}
    (finds : engine.Finds desk sentence finding) : finding.Sound sentence := by
  cases finds with
  | request found => exact engine.sound_find _ found
  | pattern found =>
      rw [tryPattern] at found
      exact Request.sound_of_hit? ((patternTier_fst _).symm.trans found)
  | @batch fallback pace requests index request finding asked found =>
      have pair := rel_getElem? (engine.sound_runBatch fallback pace requests desk).1 index
      rw [asked, found] at pair
      cases pair with
      | some sound => exact sound
  | @scan fallback pace corpus record listed =>
      obtain ⟨sample, _, _, sound⟩ :=
        exists_mem_related (engine.sound_scan fallback pace corpus desk) listed
      exact sound

/-- **Highlighting changes no character of a sentence.** Whatever a finding states, even about
another sentence, the sentence is written as it is, with a line break behind it. In colour sequences
may stand in it, those for bold and yellow before a part of it and one that undoes them behind;
where the sentence has no escapes of its own, nothing else is left when the sequences are taken out.
The parts can always be cut at their bytes. Of a match that an engine finds in the sentence, the
part in the sequences is the text that it states, at the place that it states. -/
theorem highlighting_keeps_sentence [SearchSize] (engine : Engine σ) (desk : Desk σ)
    (sentence : String) (finding : Finding) :
    Report.written false (Report.highlighted sentence finding) = sentence ++ "\n" ∧
    (Report.written true (Report.highlighted sentence finding) = sentence ++ "\n" ∨
      ∃ before inside after, sentence = before ++ inside ++ after ∧
        Report.written true (Report.highlighted sentence finding) =
          before ++ "\x1b[0m\x1b[1m\x1b[33m" ++ inside ++ "\x1b[0m" ++ after ++ "\n") ∧
    ('\x1b' ∉ sentence.toList → ∀ colour,
      Report.uncoloured (Report.written colour (Report.highlighted sentence finding)) =
        sentence ++ "\n") ∧
    Report.highlightedByBytes? sentence finding = some (Report.highlighted sentence finding) ∧
    (engine.Finds desk sentence finding → finding.matched = true →
      ∃ before after, sentence = before ++ finding.text ++ after ∧
        before.toList.length = finding.start ∧
        Report.highlighted sentence finding = [.text before, .look .highlight, .text finding.text,
          .reset, .text after, .newline]) := by
  refine ⟨Report.plain_highlighted sentence finding, Report.coloured_highlighted sentence finding,
    fun unescaped colour => ?_, Report.highlightedByBytes?_eq sentence finding,
    fun finds matched => Report.highlighted_of_sound finds.sound matched⟩
  rw [Report.uncoloured_written colour (Report.isUnescaped_highlighted unescaped),
    Report.plain_highlighted]

/-- A match behind an accented letter: its characters are not at the bytes of their numbers. -/
theorem highlighting_keeps_sentence_cafe :
    let engine : Engine Unit := ⟨none⟩
    let desk : Desk Unit := .ofMemory ()
    let sentence := "Café staff will take me through it."
    let finding : Finding := ⟨true, 16, 31, "take me through", .pattern, none⟩
    engine.Finds desk sentence finding ∧ finding.matched = true ∧ '\x1b' ∉ sentence.toList ∧
      Report.uncoloured (Report.written true (Report.highlighted sentence finding)) =
        sentence ++ "\n" ∧
      ∃ before after, sentence = before ++ "take me through" ++ after ∧
        before.toList.length = 16 := by
  intro engine desk sentence finding
  have found : (engine.find false ⟨"take (someone) through", sentence⟩ desk).1 = .ok finding := by
    decide +kernel
  have finds : engine.Finds desk sentence finding := .request found
  have unescaped : '\x1b' ∉ sentence.toList := by decide
  obtain ⟨_, _, uncoloured, _, part⟩ :=
    highlighting_keeps_sentence engine desk sentence finding
  obtain ⟨before, after, split, place, _⟩ := part finds rfl
  exact ⟨finds, rfl, unescaped, uncoloured unescaped true, before, after, split, place⟩

end Engine

end Locution
