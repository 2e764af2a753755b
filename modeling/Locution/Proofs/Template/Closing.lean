import Mathlib
import Locution.Pattern.Estimate
import Locution.Proofs.Pattern.Clause
import Locution.Proofs.Template.Leftmost
import Locution.Proofs.Text.Offset

/-! # Templates that end in a wildcard

A wildcard at the end of a template becomes a run to the end of a clause
(`Idiom.exists_pattern_of_closing`). Nothing follows it, so it takes the first length that it tries,
and behind the span that is found stands what such a run leaves out, and then the end of the clause
(`Idiom.leftOut_of_find`). A plain character that stands alone behind its separator is left out, so
the last digit of a number can be cut off (`Idiom.release_cut_at_separator`).
-/

namespace Locution

open Text

/-- The characters of a sentence behind a span. -/
def Span.remainder (span : Span) (sentence : List Char) : List Char :=
  sentence.drop ((charIndex? sentence span.stop).getD 0)

/-- What stands behind a span is the rest of the sentence. -/
theorem Span.remainder_eq {span : Span} {upTo after : List Char}
    (stop : span.stop = byteLength upTo) : span.remainder (upTo ++ after) = after := by
  rw [remainder, stop, charIndex?_append, Option.getD_some, List.drop_left]

/-- The last segment stays when neighbouring wildcards are counted as one. -/
theorem mergeWildcards_append_singleton (front : List Segment) (last : Segment) :
    ∃ kept, mergeWildcards (front ++ [last]) = kept ++ [last] := by
  induction front with
  | nil =>
      refine ⟨[], ?_⟩
      rw [List.nil_append, mergeWildcards, List.head?_nil, Option.any_none, Bool.and_false,
        if_neg Bool.false_ne_true, mergeWildcards]
  | cons segment front ih =>
      obtain ⟨kept, merged⟩ := ih
      rw [List.cons_append, mergeWildcards, merged]
      split
      · exact ⟨kept, rfl⟩
      · exact ⟨segment :: kept, rfl⟩

/-- The last segment gives the last piece, as one that ends the template. -/
theorem closingPieces_append_singleton (front : List Segment) (last : Segment) :
    ∃ pieces, closingPieces (front ++ [last]) = pieces ++ [last.piece true] := by
  induction front with
  | nil => exact ⟨[], rfl⟩
  | cons segment front ih =>
      obtain ⟨pieces, made⟩ := ih
      exact ⟨segment.piece (front ++ [last]).isEmpty :: pieces, by
        rw [List.cons_append, closingPieces, made, List.cons_append]⟩

/-- A wildcard at the end runs to the end of the clause. -/
theorem Segment.piece_of_isWildcard {segment : Segment} (wild : segment.isWildcard = true) :
    segment.piece true = .clause := by
  cases segment with
  | literal => cases wild
  | slot kind _ => cases kind <;> cases wild <;> rfl

/-- A run to the end of a clause with nothing after it takes the first length that it tries. -/
theorem Pattern.head?_clauseAttempts_of_preferred? {pieces : Pattern} {text : List Char}
    {lengths : Lengths} (found : preferred? (pieces ++ [.clause]) text = some lengths) :
    ∃ place length, (clauseAttempts (text.drop place)).head? = some length ∧
      lengths.sum = place + length := by
  induction pieces generalizing text lengths with
  | nil =>
      rw [List.nil_append, preferred?, Piece.attempts] at found
      cases tried : clauseAttempts text with
      | nil =>
          rw [tried] at found
          cases found
      | cons length others =>
          rw [tried] at found
          obtain rfl := Option.some.inj found
          refine ⟨0, length, ?_, ?_⟩
          · rw [List.drop_zero, tried, List.head?_cons]
          · rw [List.sum_singleton, Nat.zero_add]
  | cons piece pieces ih =>
      obtain ⟨length, _, followed⟩ := List.exists_of_findSome?_eq_some found
      obtain ⟨others, matched, rfl⟩ := Option.map_eq_some_iff.mp followed
      obtain ⟨place, last, tried, total⟩ := ih matched
      refine ⟨length + place, last, ?_, ?_⟩
      · rw [← List.drop_drop, tried]
      · rw [List.sum_cons, total, Nat.add_assoc]

namespace Idiom

variable {rules : List SlotRule} {expression : String} {sentence : List Char} {span : Span}

/-- The pattern of a template that ends in a wildcard ends in a run to the end of a clause. -/
theorem exists_pattern_of_closing
    (closing : (segmentsOf rules expression).getLast?.any Segment.isWildcard = true) :
    ∃ pieces, (ofExpression rules expression).pattern = pieces ++ [.clause] := by
  obtain ⟨last, ended, wild⟩ := (Option.any_eq_true _ _).mp closing
  obtain ⟨front, segments⟩ := List.getLast?_eq_some_iff.mp ended
  obtain ⟨kept, merged⟩ := mergeWildcards_append_singleton front last
  obtain ⟨pieces, made⟩ := closingPieces_append_singleton kept last
  exact ⟨pieces, by
    rw [pattern_ofExpression, parts, segments, merged, made, Segment.piece_of_isWildcard wild]⟩

section Closing

variable [SearchSize]

/-- A span and what stands behind it make up the sentence from where the span begins. -/
theorem remainder_of_find
    (found : (ofExpression rules expression).find sentence = .ok (some span)) :
    ∃ before, sentence = before ++ (span.text ++ span.remainder sentence) ∧
      span.start = byteLength before ∧ span.stop = byteLength (before ++ span.text) := by
  obtain ⟨before, texts, after, split, _, made, _⟩ := found_of_find found
  have behind : span.remainder sentence = after := by
    rw [split]
    exact Span.remainder_eq (by rw [made])
  refine ⟨before, ?_, by rw [made], by rw [made]⟩
  rw [behind, split, made, List.append_assoc]

/-- Behind a span of a template that ends in a wildcard stands what a run to the end of a clause
leaves out, and then the end of the clause. -/
theorem leftOut_of_find
    (closing : (segmentsOf rules expression).getLast?.any Segment.isWildcard = true)
    (found : (ofExpression rules expression).find sentence = .ok (some span)) :
    ∃ left rest, span.remainder sentence = left ++ rest ∧ LeftOut left ∧ ClauseEnd rest := by
  obtain ⟨pieces, ended⟩ := exists_pattern_of_closing closing
  obtain ⟨before, texts, after, split, made, _, matched, _⟩ := matched_of_find found
  have spanned := Span.ofMatch_texts (ofExpression rules expression).pattern before after texts
  rw [← split, ← made] at spanned
  have behind : span.remainder sentence = after := by
    rw [split, ← List.append_assoc]
    exact Span.remainder_eq (by rw [spanned])
  rw [ended] at matched
  obtain ⟨place, length, tried, total⟩ := Pattern.head?_clauseAttempts_of_preferred? matched
  obtain ⟨left, rest, there, leftOut, ends⟩ :=
    leftOut_of_clauseAttempts ((texts.flatten ++ after).drop place)
  refine ⟨left, rest, ?_, leftOut, ends⟩
  rw [behind, ← there, tried, Option.getD_some, List.drop_drop, ← total, ← List.length_flatten,
    List.drop_left]

/-- **A wildcard at the end runs to the end of the clause, but for a lone character behind a
separator.** Behind the span that is found stands a text of white space and of separators joined to
a plain character, and then the end of a clause. The white space is all exactly when the end of the
clause stands behind white space, and it is all where every plain character that is joined to a
separator there has another plain character behind it. -/
theorem find_closing_wildcard (expression : String) (sentence : List Char) (span : Span)
    (closing : (segmentsOf standardRules expression).getLast?.any Segment.isWildcard = true)
    (found : (ofStandard expression).find sentence = .ok (some span)) :
    (∃ before, sentence = before ++ (span.text ++ span.remainder sentence) ∧
      span.start = byteLength before ∧ span.stop = byteLength (before ++ span.text)) ∧
    (∃ left rest, span.remainder sentence = left ++ rest ∧ LeftOut left ∧ ClauseEnd rest ∧
      (StopsAtClauseEnd (span.remainder sentence) ↔ ∀ c ∈ left, isSpace c = true)) ∧
    ((∀ earlier c d later, span.remainder sentence = earlier ++ c :: d :: later →
        isSeparator c = true → isPlain d = true → later.head?.any isPlain = true) →
      StopsAtClauseEnd (span.remainder sentence)) := by
  obtain ⟨left, rest, split, leftOut, ends⟩ := leftOut_of_find closing found
  refine ⟨remainder_of_find found, ⟨left, rest, split, leftOut, ends, ?_⟩, fun company => ?_⟩
  · rw [split]
    exact stopsAtClauseEnd_append_iff leftOut ends
  · rw [split] at company ⊢
    exact stopsAtClauseEnd_of_not_alone leftOut ends company

end Closing

/-- A time stays whole at the end of a sentence. -/
theorem find_closing_wildcard_time :
    ∃ span, (segmentsOf standardRules "meet at (something)").getLast?.any Segment.isWildcard =
        true ∧
      (ofStandard "meet at (something)").find "Let's meet at 10:30".toList = .ok (some span) ∧
      span.text = "meet at 10:30".toList ∧
      StopsAtClauseEnd (span.remainder "Let's meet at 10:30".toList) := by
  have closing : (segmentsOf standardRules "meet at (something)").getLast?.any
      Segment.isWildcard = true := by decide +kernel
  have found : (ofStandard "meet at (something)").find "Let's meet at 10:30".toList =
      .ok (some ⟨6, 19, "meet at 10:30".toList, ["10:30".toList]⟩) := by cbv
  obtain ⟨_, _, stops⟩ := find_closing_wildcard _ _ _ closing found
  refine ⟨_, closing, found, rfl, stops fun earlier c d later split => ?_⟩
  cases earlier <;> cases split

/-- The single digit behind the point of a number is cut off at the end of a clause, so that neither
white space nor the end of the clause follows. -/
theorem release_cut_at_separator :
    ∃ span, (segmentsOf standardRules "look into (something)").getLast?.any Segment.isWildcard =
        true ∧
      (ofStandard "look into (something)").find "We should look into release 2.5.".toList =
        .ok (some span) ∧
      span.text = "look into release 2".toList ∧
      ¬ StopsAtClauseEnd (span.remainder "We should look into release 2.5.".toList) := by
  have closing : (segmentsOf standardRules "look into (something)").getLast?.any
      Segment.isWildcard = true := by decide +kernel
  have found : (ofStandard "look into (something)").find
      "We should look into release 2.5.".toList =
      .ok (some ⟨10, 29, "look into release 2".toList, ["release 2".toList]⟩) := by cbv
  refine ⟨_, closing, found, rfl, fun stops => ?_⟩
  have leftOut : LeftOut ['.', '5'] := .joined rfl rfl .nil
  have ends : ClauseEnd ['.'] := .marked rfl fun _ => rfl
  have blank := (stopsAtClauseEnd_append_iff leftOut ends).mp stops '.' List.mem_cons_self
  cases blank

end Idiom

end Locution
