import Mathlib
import Locution.Pattern.Estimate
import Locution.Proofs.Pattern.LetterCase
import Locution.Proofs.Template.Leftmost
import Locution.Proofs.Template.Scan

/-! # Templates and the case of letters

The markers of a template are read without regard to the case of ASCII letters, and no such letter
ends or begins a word, so making the letters of a template small makes those of its segments small
and changes nothing else (`segmentsOf_eq_of_sameLetters`). Together with the search, which does not
look at the case of letters either, this says that expressions and sentences can be written with
large or small letters alike (`Idiom.find_alike`).
-/

namespace Locution

open Text

theorem opensWithMarker_map_toLower (text : List Char) :
    opensWithMarker (text.map Char.toLower) = opensWithMarker text := by
  fun_cases opensWithMarker text with
  | case1 => rfl
  | case2 => rfl
  | case3 text untilded undotted =>
      unfold opensWithMarker
      split
      · rename_i rest same
        obtain ⟨_, rfl, _⟩ := exists_eq_cons_of_map_toLower rfl same
        exact absurd rfl (untilded _)
      · rename_i rest same
        obtain ⟨_, rfl, second⟩ := exists_eq_cons_of_map_toLower rfl same
        obtain ⟨_, rfl, third⟩ := exists_eq_cons_of_map_toLower rfl second
        obtain ⟨_, rfl, _⟩ := exists_eq_cons_of_map_toLower rfl third
        exact absurd rfl (undotted _)
      · rfl

/-- Dropping markers does not depend on the case of letters. -/
theorem dropMarkers_map_toLower (text : List Char) :
    dropMarkers (text.map Char.toLower) = (dropMarkers text).map Char.toLower := by
  fun_induction dropMarkers text with
  | case1 text rest trimmed ih =>
      have small : trimStart (text.map Char.toLower) = '~' :: rest.map Char.toLower := by
        rw [trimStart_map_toLower, trimmed]
        rfl
      rw [dropMarkers_of_tilde small, ih]
  | case2 text rest trimmed ih =>
      have small : trimStart (text.map Char.toLower) =
          '.' :: '.' :: '.' :: rest.map Char.toLower := by
        rw [trimStart_map_toLower, trimmed]
        rfl
      rw [dropMarkers_of_dots small, ih]
  | case3 text untilded undotted =>
      have unmarked : opensWithMarker (trimStart text) = false := by
        unfold opensWithMarker
        split
        · exact absurd ‹_› (untilded _)
        · exact absurd ‹_› (undotted _)
        · rfl
      rw [dropMarkers_of_not_opens, trimStart_map_toLower]
      rw [trimStart_map_toLower, opensWithMarker_map_toLower, unmarked]

/-- Dropping an elision does not depend on the case of letters. -/
theorem dropElision_map_toLower (template : List Char) :
    dropElision (template.map Char.toLower) = (dropElision template).map Char.toLower := by
  simp only [dropElision, ← List.map_reverse, trimStart_map_toLower, opensWithMarker_map_toLower,
    dropMarkers_map_toLower]
  split <;> rfl

namespace Segment

/-- A segment with its ASCII letters made small. -/
def lowered : Segment → Segment
  | .literal text => .literal (text.map Char.toLower)
  | .slot kind token => .slot kind (token.map Char.toLower)

theorem isWildcard_lowered (segment : Segment) :
    segment.lowered.isWildcard = segment.isWildcard := by
  cases segment <;> rfl

theorem anchors_lowered (segment : Segment) : segment.lowered.anchors = segment.anchors := by
  cases segment with
  | literal text => simp [lowered, anchors, Function.comp_def]
  | slot => rfl

theorem join_lowered (segment : Segment) (following : List Segment) :
    segment.lowered.join (following.map lowered) = (segment.join following).map lowered := by
  cases segment with
  | slot => rfl
  | literal text =>
      cases following with
      | nil => rfl
      | cons next rest =>
          cases next with
          | slot => rfl
          | literal => simp only [lowered, join, List.map_cons, List.map_append]

end Segment

theorem plainLength_toLower (c : Char) (template : List Char) :
    plainLength c.toLower (template.map Char.toLower) = plainLength c template := by
  simp only [plainLength, isTemplateWordChar_toLower, List.takeWhile_map, List.length_map,
    Function.comp_def]

/-- A rule reads a template in small letters as it reads the template. -/
theorem SlotRule.read?_map_toLower (rule : SlotRule) (template : List Char) :
    rule.read? (template.map Char.toLower) =
      (rule.read? template).map fun (segment, rest) =>
        (segment.lowered, rest.map Char.toLower) := by
  have left : rule.rest? (template.map Char.toLower) =
      (rule.rest? template).map (List.map Char.toLower) := by
    unfold rest?
    split
    · rfl
    · rw [dropLead_map_toLower (fun a c => by simp only [asciiFoldEq, toLower_toLower]),
        Option.filter_map]
      simp only [Function.comp_def, opensWithWord_map_toLower]
  rw [read?, read?, left, Option.map_map, Option.map_map]
  simp only [Function.comp_def, Segment.lowered, List.map_take]

/-- The rule that decides does not depend on the case of letters. -/
theorem readSlot?_map_toLower (rules : List SlotRule) (template : List Char) :
    readSlot? rules (template.map Char.toLower) =
      (readSlot? rules template).map fun (segment, rest) =>
        (segment.lowered, rest.map Char.toLower) := by
  rw [readSlot?, readSlot?, List.map_findSome?]
  congr 1
  funext rule
  exact rule.read?_map_toLower template

/-- The segments of a template in small letters are its segments in small letters, from wherever it
is read. -/
theorem readSegments_map_toLower (rules : List SlotRule) (done : List Segment)
    (template : List Char) :
    readSegments rules (done.map Segment.lowered) (template.map Char.toLower) =
      (readSegments rules done template).map Segment.lowered := by
  fun_induction readSegments rules done template with
  | case1 done =>
      rw [List.map_nil, readSegments, List.map_reverse]
  | case2 done c template segment rest read ih =>
      have small := readSlot?_map_toLower rules (c :: template)
      rw [read, Option.map_some, List.map_cons] at small
      rw [List.map_cons, readSegments_of_slot small, ← ih, List.map_cons]
  | case3 done c template plain count ih =>
      have small := readSlot?_map_toLower rules (c :: template)
      rw [plain, Option.map_none, List.map_cons] at small
      rw [List.map_cons, readSegments_of_plain small, plainLength_toLower, ← ih, List.map_cons,
        Segment.lowered, List.map_take, List.map_drop, List.map_cons]

/-- The segments of a template in small letters are its segments in small letters. -/
theorem segments_map_toLower (rules : List SlotRule) (template : List Char) :
    segments rules (template.map Char.toLower) =
      (segments rules template).map Segment.lowered := by
  have read := readSegments_map_toLower rules [] template
  rw [List.map_nil] at read
  rw [segments, segments, read]
  induction readSegments rules [] template with
  | nil => rfl
  | cons segment rest ih =>
      simp only [List.map_cons, List.foldr_cons] at ih ⊢
      rw [ih, Segment.join_lowered]

/-- The piece of a slot has no letters of its own. -/
theorem Slot.lowered_piece (kind : Slot) (closing : Bool) :
    (kind.piece closing).lowered = kind.piece closing := by
  cases kind <;> cases closing <;> rfl

/-- The pieces of segments in small letters are their pieces in small letters. -/
theorem piecesAfter_map_lowered (afterWildcard : Bool) (parts : List Segment) :
    piecesAfter afterWildcard (parts.map Segment.lowered) =
      (piecesAfter afterWildcard parts).map Piece.lowered := by
  induction parts generalizing afterWildcard with
  | nil => rfl
  | cons segment parts ih =>
      cases segment with
      | literal text =>
          simp only [List.map_cons, Segment.lowered, piecesAfter, Piece.lowered, ih]
      | slot kind token =>
          have closing : (parts.map Segment.lowered).all Segment.isWildcard =
              parts.all Segment.isWildcard := by
            simp only [List.all_map, Function.comp_def, Segment.isWildcard_lowered]
          simp only [List.map_cons, Segment.lowered, piecesAfter, closing, ih]
          split
          · rfl
          · rw [List.map_cons, Slot.lowered_piece]

/-- Whether two spans lie at one place and have texts that differ at most in the case of letters. -/
structure Span.Alike (span other : Span) : Prop where
  start_eq : span.start = other.start
  stop_eq : span.stop = other.stop
  text : SameLetters span.text other.text
  slots : List.Forall₂ SameLetters span.slots other.slots

/-- A match of two patterns with the same letters is the same span of sentences with the same
letters. -/
theorem Span.alike_ofMatch {pattern other : Pattern} {sentence text : List Char}
    (alike : pattern.map Piece.lowered = other.map Piece.lowered)
    (same : SameLetters sentence text) (first : Nat) (lengths : Lengths) :
    (Span.ofMatch pattern sentence first lengths).Alike
      (Span.ofMatch other text first lengths) := by
  have small := sameLetters_iff.mp same
  have bytes (count : Nat) : byteLength (sentence.take count) = byteLength (text.take count) := by
    rw [← byteLength_map_toLower, ← byteLength_map_toLower (text.take count), List.map_take,
      List.map_take, small]
  refine ⟨bytes _, bytes _, ?_, ?_⟩
  · rw [sameLetters_iff, ofMatch, ofMatch, slice, slice]
    simp only [List.map_take, List.map_drop, small]
  · have captured : (pattern.captured lengths (sentence.drop first)).map (List.map Char.toLower) =
        (other.captured lengths (text.drop first)).map (List.map Char.toLower) := by
      rw [← Pattern.captured_lowered, ← Pattern.captured_lowered, alike, List.map_drop,
        List.map_drop, small]
    rw [← List.forall₂_eq_eq_eq, List.forall₂_map_left_iff, List.forall₂_map_right_iff] at captured
    exact captured.imp fun _ _ equal => sameLetters_iff.mpr equal

namespace Idiom

variable {rules : List SlotRule} {expression other : String}

/-- Expressions that differ in the case of letters have segments that differ in nothing else. -/
theorem segmentsOf_eq_of_sameLetters (same : SameLetters expression.toList other.toList) :
    (segmentsOf rules expression).map Segment.lowered =
      (segmentsOf rules other).map Segment.lowered := by
  rw [segmentsOf, segmentsOf, ← segments_map_toLower, ← segments_map_toLower,
    ← trim_map_toLower, ← trim_map_toLower, ← dropElision_map_toLower, ← dropElision_map_toLower,
    sameLetters_iff.mp same]

/-- Expressions with the same letters have patterns with the same letters. -/
theorem pattern_eq_of_sameLetters (same : SameLetters expression.toList other.toList) :
    (ofExpression rules expression).pattern.map Piece.lowered =
      (ofExpression rules other).pattern.map Piece.lowered := by
  rw [ofExpression, ofExpression, ← piecesAfter_map_lowered, segmentsOf_eq_of_sameLetters same,
    piecesAfter_map_lowered]

/-- Expressions with the same letters have slots of the same kinds. -/
theorem kinds_eq_of_sameLetters (same : SameLetters expression.toList other.toList) :
    (ofExpression rules expression).slots.map Prod.snd =
      (ofExpression rules other).slots.map Prod.snd := by
  have kinds (parts : List Segment) :
      (parts.filterMap Segment.slot?).map Prod.snd =
        ((parts.map Segment.lowered).filterMap Segment.slot?).map Prod.snd := by
    rw [List.filterMap_map, List.map_filterMap, List.map_filterMap]
    congr 1
    funext segment
    cases segment <;> rfl
  rw [ofExpression, ofExpression, kinds, kinds (segmentsOf rules other),
    segmentsOf_eq_of_sameLetters same]

/-- Expressions with the same letters are anchored alike. -/
theorem anchored_eq_of_sameLetters (same : SameLetters expression.toList other.toList) :
    (ofExpression rules expression).anchored = (ofExpression rules other).anchored := by
  have anchored (parts : List Segment) :
      parts.any Segment.anchors = (parts.map Segment.lowered).any Segment.anchors := by
    simp only [List.any_map, Function.comp_def, Segment.anchors_lowered]
  rw [ofExpression, ofExpression, anchored, anchored (segmentsOf rules other),
    segmentsOf_eq_of_sameLetters same]

/-- Expressions with the same letters both have segments, or neither has. -/
theorem isEmpty_eq_of_sameLetters (same : SameLetters expression.toList other.toList) :
    (ofExpression rules expression).isEmpty = (ofExpression rules other).isEmpty := by
  have empty (idiom : Idiom) : idiom.isEmpty = (idiom.pattern.map Piece.lowered).isEmpty := by
    rw [isEmpty, List.isEmpty_map]
  rw [empty, empty (ofExpression rules other), pattern_eq_of_sameLetters same]

/-- Expressions with the same letters both have patterns that are not too large, or neither has. -/
theorem fits_eq_of_sameLetters [SearchSize] (same : SameLetters expression.toList other.toList) :
    (ofExpression rules expression).pattern.fits = (ofExpression rules other).pattern.fits := by
  rw [Pattern.fits, Pattern.fits, ← SearchSize.bytes_lowered, pattern_eq_of_sameLetters same,
    SearchSize.bytes_lowered]

/-- **The case of letters does not matter.** Two expressions that differ at most in the case of
ASCII letters have the same kinds of slots in the same order, both or neither have plain text that
is not blank, and both or neither are empty. When their patterns are small enough and two sentences
differ at most in the case of ASCII letters, either none of the expressions is found in its
sentence, or both are found at the same place, with texts in their slots that differ at most in the
case of letters. -/
theorem find_alike [SearchSize] (expression other : String) (sentence text : List Char)
    (sameExpression : SameLetters expression.toList other.toList)
    (sameSentence : SameLetters sentence text)
    (fits : (ofStandard expression).pattern.fits = true) :
    (ofStandard expression).slots.map Prod.snd = (ofStandard other).slots.map Prod.snd ∧
      (ofStandard expression).anchored = (ofStandard other).anchored ∧
      (ofStandard expression).isEmpty = (ofStandard other).isEmpty ∧
      ((ofStandard expression).find sentence = .ok none ∧
          (ofStandard other).find text = .ok none ∨
        ∃ span otherSpan, (ofStandard expression).find sentence = .ok (some span) ∧
          (ofStandard other).find text = .ok (some otherSpan) ∧ span.Alike otherSpan) := by
  refine ⟨kinds_eq_of_sameLetters sameExpression, anchored_eq_of_sameLetters sameExpression,
    isEmpty_eq_of_sameLetters sameExpression, ?_⟩
  have emptyEq : (ofStandard expression).isEmpty = (ofStandard other).isEmpty :=
    isEmpty_eq_of_sameLetters sameExpression
  have otherFits : (ofStandard other).pattern.fits = true :=
    (fits_eq_of_sameLetters sameExpression).symm.trans fits
  have searched : (ofStandard expression).pattern.first? sentence =
      (ofStandard other).pattern.first? text :=
    Pattern.first?_eq_of_sameLetters (solid_pattern_ofExpression _ _)
      (solid_pattern_ofExpression _ _) (pattern_eq_of_sameLetters sameExpression) sameSentence
  rw [find_eq, find_eq, ← emptyEq, fits, otherFits, ← searched, if_pos rfl, if_pos rfl]
  by_cases empty : (ofStandard expression).isEmpty = true
  · rw [if_pos empty, if_pos empty]
    exact .inl ⟨rfl, rfl⟩
  · rw [if_neg empty, if_neg empty]
    cases (ofStandard expression).pattern.first? sentence with
    | none => exact .inl ⟨rfl, rfl⟩
    | some found =>
        exact .inr ⟨_, _, rfl, rfl, Span.alike_ofMatch (pattern_eq_of_sameLetters sameExpression)
          sameSentence found.1 found.2⟩

/-- A slot that is written in two ways, in a sentence that is written in two ways. -/
theorem find_alike_take_through :
    SameLetters "Take (SomeOne) through".toList "take (someone) through".toList ∧
      SameLetters "TAKE Zoë THROUGH".toList "take zoë through".toList ∧
      (ofStandard "Take (SomeOne) through").pattern.fits = true ∧
      ∃ span otherSpan,
        (ofStandard "Take (SomeOne) through").find "TAKE Zoë THROUGH".toList = .ok (some span) ∧
          (ofStandard "take (someone) through").find "take zoë through".toList =
            .ok (some otherSpan) ∧ span.Alike otherSpan := by
  have sameExpression :
      SameLetters "Take (SomeOne) through".toList "take (someone) through".toList :=
    sameLetters_iff.mpr (by decide +kernel)
  have sameSentence : SameLetters "TAKE Zoë THROUGH".toList "take zoë through".toList :=
    sameLetters_iff.mpr (by decide +kernel)
  have fits : (ofStandard "Take (SomeOne) through").pattern.fits = true := by decide +kernel
  have found : (ofStandard "Take (SomeOne) through").find "TAKE Zoë THROUGH".toList =
      .ok (some ⟨0, 17, "TAKE Zoë THROUGH".toList, ["Zoë".toList]⟩) := by cbv
  refine ⟨sameExpression, sameSentence, fits, ?_⟩
  rcases (find_alike _ _ _ _ sameExpression sameSentence fits).2.2.2 with ⟨missed, _⟩ | both
  · rw [found] at missed
    cases missed
  · exact both

end Idiom

end Locution
