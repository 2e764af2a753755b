import Locution.Pattern.Estimate
import Locution.Proofs.Template.Closing
import Locution.Proofs.Template.Placement

/-! # Possessive pronouns at the ends of a template

A possessive slot next to plain text that ends the words around it is filled with a word of the
sentence. At the beginning and at the end of a template nothing looks at the sentence around the
span, so a slot that stands there is filled with a whole word exactly when the span does not begin
or end inside one (`Span.Placement.whole_iff`).
-/

namespace Locution

open Text

/-- The characters of a sentence before a span. -/
def Span.preceding (span : Span) (sentence : List Char) : List Char :=
  sentence.take ((charIndex? sentence span.start).getD 0)

/-- What stands before a span is the beginning of the sentence. -/
theorem Span.preceding_eq {span : Span} {earlier rest : List Char}
    (start : span.start = byteLength earlier) : span.preceding (earlier ++ rest) = earlier := by
  rw [preceding, start, charIndex?_append, Option.getD_some, List.take_left]

namespace Span.Placement

variable {front back : List Segment} {slot : Segment} {sentence : List Char} {span : Span}

/-- Before a slot at the beginning of a template stands what stands before the span. -/
theorem before_eq_preceding (placement : span.Placement front slot back sentence)
    (opening : front = []) : placement.before = span.preceding sentence := by
  subst opening
  have nothing : placement.lead = [] := List.forall₂_nil_left_iff.mp placement.leads
  have start : span.start = byteLength placement.earlier := congrArg Span.start placement.span_eq
  have there : span.preceding sentence = placement.earlier := by
    refine (congrArg span.preceding placement.sentence_eq).trans ?_
    rw [List.append_assoc, preceding_eq start]
  rw [there, before, nothing, List.flatten_nil, List.append_nil]

/-- Behind a slot at the end of a template stands what stands behind the span. -/
theorem after_eq_remainder (placement : span.Placement front slot back sentence)
    (closing : back = []) : placement.after = span.remainder sentence := by
  subst closing
  have nothing : placement.trail = [] := by
    cases trailEq : placement.trail with
    | nil => rfl
    | cons text texts =>
        have trails := placement.trails
        rw [trailEq] at trails
        cases trails
  have there : span.remainder sentence = placement.later :=
    (congrArg span.remainder placement.sentence_eq).trans
      (remainder_eq (congrArg Span.stop placement.span_eq))
  rw [there, after, nothing, List.flatten_nil, List.nil_append]

/-- **The words end around a slot exactly where they end around the span.** Next to plain text that
ends the words this is always so, and at an end of the template it depends on the sentence. -/
theorem whole_iff (placement : span.Placement front slot back sentence)
    (left : front.getLast?.all Segment.closesWithGap = true)
    (right : back.head?.all Segment.opensWithGap = true) :
    placement.Whole ↔
      (front = [] → (span.preceding sentence).getLast?.any isWordChar = false) ∧
        (back = [] → (span.remainder sentence).head?.any isWordChar = false) := by
  have leftIff : placement.before.getLast?.any isWordChar = false ↔
      (front = [] → (span.preceding sentence).getLast?.any isWordChar = false) := by
    by_cases opening : front = []
    · rw [placement.before_eq_preceding opening]
      exact ⟨fun apart _ => apart, fun apart => apart opening⟩
    · refine iff_of_true (placement.before_apart ?_) fun empty => absurd empty opening
      rw [List.getLast?_eq_some_getLast opening] at left ⊢
      exact left
  have rightIff : placement.after.head?.any isWordChar = false ↔
      (back = [] → (span.remainder sentence).head?.any isWordChar = false) := by
    by_cases closing : back = []
    · rw [placement.after_eq_remainder closing]
      exact ⟨fun apart _ => apart, fun apart => apart closing⟩
    · refine iff_of_true (placement.after_apart ?_) fun empty => absurd empty closing
      rw [List.head?_eq_some_head closing] at right ⊢
      exact right
  exact and_congr leftIff rightIff

end Span.Placement

namespace Idiom

/-- **A possessive slot is filled with a whole word, but for the ends of the template.** In a span
that is found the slot has a place, where it takes a pronoun, which the span reports. When the slot
stands between plain text that ends the words or the ends of the template, this pronoun is no part
of a longer word exactly when at such an end the span does not begin or end inside a word. -/
theorem find_possessive_whole [SearchSize] (expression : String) (sentence : List Char)
    (span : Span) (front back : List Segment) (token : List Char)
    (read : segmentsOf standardRules expression = front ++ .slot .possessive token :: back)
    (left : front.getLast?.all Segment.closesWithGap = true)
    (right : back.head?.all Segment.opensWithGap = true)
    (found : (ofStandard expression).find sentence = .ok (some span)) :
    Nonempty (span.Placement front (.slot .possessive token) back sentence) ∧
      ∀ placement : span.Placement front (.slot .possessive token) back sentence,
        span.slots[slotCount (mergeWildcards front)]? = some placement.taken ∧
          IsPronoun placement.taken ∧
          (placement.Whole ↔
            (front = [] → (span.preceding sentence).getLast?.any isWordChar = false) ∧
              (back = [] → (span.remainder sentence).head?.any isWordChar = false)) := by
  refine ⟨exists_placement_of_find rfl read found, fun placement => ⟨?_, ?_, ?_⟩⟩
  · exact placement.slots_getElem? rfl
  · exact placement.takes
  · exact placement.whole_iff left right

/-- Between two words of a template the pronoun is a word of the sentence. -/
theorem find_possessive_whole_on_my_own :
    ∃ span, segmentsOf standardRules "on one's own" =
        [.literal "on ".toList] ++ .slot .possessive "one's".toList :: [.literal " own".toList] ∧
      (ofStandard "on one's own").find "He did it on his own.".toList = .ok (some span) ∧
      ∀ placement : span.Placement [.literal "on ".toList] (.slot .possessive "one's".toList)
        [.literal " own".toList] "He did it on his own.".toList,
        placement.taken = "his".toList ∧ placement.Whole := by
  have read : segmentsOf standardRules "on one's own" =
      [.literal "on ".toList] ++
        .slot .possessive "one's".toList :: [.literal " own".toList] := by
    decide +kernel
  have found : (ofStandard "on one's own").find "He did it on his own.".toList =
      .ok (some ⟨10, 20, "on his own".toList, ["his".toList]⟩) := by cbv
  refine ⟨_, read, found, fun placement => ?_⟩
  have left : [Segment.literal "on ".toList].getLast?.all Segment.closesWithGap = true := by
    decide +kernel
  have right : [Segment.literal " own".toList].head?.all Segment.opensWithGap = true := by
    decide +kernel
  obtain ⟨reported, _, whole⟩ :=
    (find_possessive_whole _ _ _ _ _ _ read left right found).2 placement
  refine ⟨(Option.some.inj reported).symm, whole.mpr ⟨?_, ?_⟩⟩
  · intro opening
    cases opening
  · intro closing
    cases closing

/-- At the beginning of a template the pronoun can be the end of another word. -/
theorem his_inside_this :
    ∃ (span : Span) (placement : span.Placement [] (.slot .possessive "one's".toList)
        [.literal " call".toList] "Can you join this call?".toList),
      segmentsOf standardRules "one's call" =
        [] ++ .slot .possessive "one's".toList :: [.literal " call".toList] ∧
      (ofStandard "one's call").find "Can you join this call?".toList = .ok (some span) ∧
      placement.taken = "his".toList ∧ ¬ placement.Whole := by
  have read : segmentsOf standardRules "one's call" =
      [] ++ .slot .possessive "one's".toList :: [.literal " call".toList] := by
    decide +kernel
  have found : (ofStandard "one's call").find "Can you join this call?".toList =
      .ok (some ⟨14, 22, "his call".toList, ["his".toList]⟩) := by cbv
  obtain ⟨placement⟩ := exists_placement_of_find rfl read found
  refine ⟨_, placement, read, found, ?_, fun whole => ?_⟩
  · exact (Option.some.inj (placement.slots_getElem? rfl)).symm
  · rw [Span.Placement.whole_iff placement rfl (by decide +kernel)] at whole
    have apart := whole.1 rfl
    revert apart
    decide +kernel

end Idiom

end Locution
