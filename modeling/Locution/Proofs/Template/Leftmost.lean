import Locution.Pattern.Estimate
import Locution.Span
import Locution.Proofs.Template.Realization

/-! # The leftmost realization of an expression

Looking for an expression in a sentence finds a part of the sentence that realizes it, and no part
that realizes it begins further left (`Idiom.found_of_find`). Where nothing is found, no part of the
sentence realizes the expression (`Idiom.absent_of_find`).
-/

namespace Locution

open Text

/-- The lengths of several texts add up to that of the texts together. -/
theorem foldl_add_lengths (texts : List (List Char)) (first : Nat) :
    (texts.map List.length).foldl (· + ·) first = first + texts.flatten.length := by
  induction texts generalizing first with
  | nil => rfl
  | cons text texts ih =>
      rw [List.map_cons, List.foldl_cons, ih, List.flatten_cons, List.length_append, Nat.add_assoc]

/-- The span of a match that is made of the given texts behind others. -/
theorem Span.ofMatch_texts (pattern : Pattern) (before rest : List Char)
    (texts : List (List Char)) :
    Span.ofMatch pattern (before ++ (texts.flatten ++ rest)) before.length
        (texts.map List.length) =
      { start := byteLength before
        stop := byteLength (before ++ texts.flatten)
        text := texts.flatten
        slots := pattern.captured (texts.map List.length) (texts.flatten ++ rest) } := by
  have upTo : (before ++ (texts.flatten ++ rest)).take (before.length + texts.flatten.length) =
      before ++ texts.flatten := by
    rw [← List.append_assoc, ← List.length_append, List.take_left]
  simp only [Span.ofMatch, foldl_add_lengths, upTo, slice, List.take_left, List.drop_left,
    Nat.add_sub_cancel_left]

/-- Whether a span is a part of a sentence that realizes an expression, such that no other part that
realizes it begins further left. -/
def Span.IsLeftmost (rules : List SlotRule) (expression : String) (sentence : List Char)
    (span : Span) : Prop :=
  ∃ before texts after, sentence = before ++ texts.flatten ++ after ∧
    Realizes (Idiom.parts rules expression) texts ∧
    span = ⟨byteLength before, byteLength (before ++ texts.flatten), texts.flatten,
      slotTexts (Idiom.parts rules expression) texts⟩ ∧
    ∀ earlier others later, sentence = earlier ++ others.flatten ++ later →
      Realizes (Idiom.parts rules expression) others → before.length ≤ earlier.length

namespace Idiom

variable {rules : List SlotRule} {expression : String} {sentence : List Char}

/-- Where the pattern finds nothing, no texts that realize the expression stand. -/
theorem not_realized_of_preferred? {place : List Char}
    (missed : (ofExpression rules expression).pattern.preferred? place = none)
    (texts : List (List Char)) (after : List Char) (split : place = texts.flatten ++ after) :
    ¬ Realizes (parts rules expression) texts := by
  intro realized
  rw [pattern_ofExpression, split] at missed
  have matched := Pattern.isSome_preferred? (realizedBy_closingPieces_iff.mpr realized) after
  rw [missed] at matched
  cases matched

section Find

variable [SearchSize]

/-- An expression without segments is found nowhere, a pattern that is too large is turned down, and
any other one is searched for. -/
theorem find_eq (idiom : Idiom) (sentence : List Char) :
    idiom.find sentence =
      if idiom.isEmpty then .ok none
      else if idiom.pattern.fits then
        .ok ((idiom.pattern.first? sentence).map fun found =>
          Span.ofMatch idiom.pattern sentence found.1 found.2)
      else .error ⟨Pattern.sizeLimit⟩ :=
  rfl

/-- What is found is made of texts that the pattern takes, it is the match that the search prefers
at its place, and there is no match further left. -/
theorem matched_of_find {span : Span}
    (found : (ofExpression rules expression).find sentence = .ok (some span)) :
    ∃ before texts after, sentence = before ++ (texts.flatten ++ after) ∧
      span = Span.ofMatch (ofExpression rules expression).pattern sentence before.length
        (texts.map List.length) ∧
      (ofExpression rules expression).pattern.RealizedBy texts ∧
      (ofExpression rules expression).pattern.preferred? (texts.flatten ++ after) =
        some (texts.map List.length) ∧
      ∀ earlier < before.length,
        (ofExpression rules expression).pattern.preferred? (sentence.drop earlier) = none := by
  rw [find_eq] at found
  split at found
  · cases found
  · split at found
    · obtain ⟨⟨first, lengths⟩, searched, made⟩ :=
        Option.map_eq_some_iff.mp (Except.ok.inj found)
      obtain ⟨within, matched, leftmost⟩ :=
        Pattern.first?_eq_some (solid_pattern_ofExpression rules expression) searched
      obtain ⟨texts, after, place, rfl, realized⟩ := Pattern.realized_of_preferred? matched
      have count : (sentence.take first).length = first := List.length_take_of_le within
      refine ⟨sentence.take first, texts, after, ?_, ?_, realized, ?_, ?_⟩
      · rw [← place, List.take_append_drop]
      · rw [count, ← made]
      · rw [← place, matched]
      · rw [count]
        exact leftmost
    · cases found

/-- What is found is realized by its texts, and nothing that begins further left is realized. -/
theorem found_of_find {span : Span}
    (found : (ofExpression rules expression).find sentence = .ok (some span)) :
    span.IsLeftmost rules expression sentence := by
  obtain ⟨before, texts, after, split, made, realized, _, leftmost⟩ := matched_of_find found
  have spanned := Span.ofMatch_texts (ofExpression rules expression).pattern before after texts
  rw [← split, ← made] at spanned
  rw [pattern_ofExpression] at spanned realized
  refine ⟨before, texts, after, by rw [List.append_assoc, ← split],
    realizedBy_closingPieces_iff.mp realized, ?_, ?_⟩
  · rw [spanned, captured_closingPieces]
  · intro earlier others later splitEarlier realizedEarlier
    by_contra further
    have missed := leftmost earlier.length (Nat.lt_of_not_le further)
    refine not_realized_of_preferred? missed others later ?_ realizedEarlier
    rw [splitEarlier, List.append_assoc, List.drop_left]

/-- Where nothing is found, the expression has no segments or no part of the sentence realizes
it. -/
theorem absent_of_find (missed : (ofExpression rules expression).find sentence = .ok none) :
    segmentsOf rules expression = [] ∨
      ∀ texts, Realizes (parts rules expression) texts → ¬ texts.flatten <:+: sentence := by
  rw [find_eq] at missed
  split at missed
  · rename_i nothing
    rw [isEmpty_ofExpression] at nothing
    exact .inl (List.isEmpty_iff.mp nothing)
  · split at missed
    · have searched := Option.map_eq_none_iff.mp (Except.ok.inj missed)
      refine .inr fun texts realized inside => ?_
      obtain ⟨before, after, split⟩ := inside
      refine not_realized_of_preferred?
        (Pattern.first?_eq_none (solid_pattern_ofExpression rules expression) searched
          before.length) texts after ?_ realized
      rw [← split, List.append_assoc, List.drop_left]
    · cases missed

/-- A pattern that is not too large is searched for. -/
theorem exists_find_of_fits (idiom : Idiom) (fits : idiom.pattern.fits = true)
    (sentence : List Char) : ∃ result, idiom.find sentence = .ok result := by
  rw [find_eq, fits, if_pos rfl]
  split <;> exact ⟨_, rfl⟩

/-- **Finding is sound, complete and leftmost.** An expression whose pattern is small enough is
found in a sentence exactly when it has segments and some part of the sentence is made of texts that
realize them. The span that is found is such a part, its slots are the texts that fill the slots of
the expression, and no such part begins further left. -/
theorem find_ofStandard_leftmost (expression : String) (sentence : List Char)
    (fits : (ofStandard expression).pattern.fits = true) :
    ∃ result, (ofStandard expression).find sentence = .ok result ∧
      (result.isSome = true ↔ segmentsOf standardRules expression ≠ [] ∧
        ∃ texts, Realizes (parts standardRules expression) texts ∧ texts.flatten <:+: sentence) ∧
      ∀ span, result = some span → span.IsLeftmost standardRules expression sentence := by
  obtain ⟨result, found⟩ := exists_find_of_fits _ fits sentence
  refine ⟨result, found, ?_, fun span same => found_of_find (same ▸ found)⟩
  cases result with
  | none =>
      refine iff_of_false Bool.false_ne_true ?_
      rintro ⟨filled, texts, realized, inside⟩
      rcases absent_of_find found with nothing | absent
      · exact filled nothing
      · exact absent texts realized inside
  | some span =>
      obtain ⟨before, texts, after, split, realized, _⟩ := found_of_find found
      refine iff_of_true rfl ⟨fun nothing => ?_, texts, realized, before, after, split.symm⟩
      have empty : (ofStandard expression).isEmpty = true := by
        rw [ofStandard, isEmpty_ofExpression, nothing, List.isEmpty_nil]
      rw [find_eq, if_pos empty] at found
      cases found

end Find

/-- A pronoun stands behind an accented letter, so that the span begins at a later byte than
character. -/
theorem find_ofStandard_leftmost_change_mind :
    (ofStandard "change one's mind").pattern.fits = true ∧
      (ofStandard "change one's mind").find "Did Zoë change her mind?".toList =
        .ok (some ⟨9, 24, "change her mind".toList, ["her".toList]⟩) ∧
      Span.IsLeftmost standardRules "change one's mind" "Did Zoë change her mind?".toList
        ⟨9, 24, "change her mind".toList, ["her".toList]⟩ := by
  have fits : (ofStandard "change one's mind").pattern.fits = true := by decide +kernel
  have found : (ofStandard "change one's mind").find "Did Zoë change her mind?".toList =
      .ok (some ⟨9, 24, "change her mind".toList, ["her".toList]⟩) := by decide +kernel
  obtain ⟨result, same, _, leftmost⟩ :=
    find_ofStandard_leftmost "change one's mind" "Did Zoë change her mind?".toList fits
  exact ⟨fits, found, leftmost _ (Except.ok.inj (same.symm.trans found))⟩

end Idiom

end Locution
