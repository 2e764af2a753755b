import Locution.Pattern.Estimate
import Locution.Proofs.Template.Possessive
import Locution.Proofs.Template.Preference

/-! # Words for persons

A slot for a person is filled with a whole word of the sentence, also at the ends of a template. At
the beginning a word that went on to the left would give a reading that begins further left
(`Span.Placement.before_apart_of_opening`), and at the end a word that went on to the right would be
preferred, being longer (`Span.Placement.after_apart_of_closing`). So the plain text around a slot
matters only where there is some.
-/

namespace Locution

open Text

theorem IsWord.cons {c : Char} {text : List Char} (word : isWordChar c = true)
    (others : IsWord text) : IsWord (c :: text) :=
  ⟨List.cons_ne_nil _ _, List.forall_mem_cons.mpr ⟨word, others.2⟩⟩

theorem IsWord.concat {c : Char} {text : List Char} (others : IsWord text)
    (word : isWordChar c = true) : IsWord (text ++ [c]) := by
  refine ⟨List.append_ne_nil_of_right_ne_nil _ (List.cons_ne_nil _ _), ?_⟩
  intro d member
  rcases List.mem_append.mp member with inside | last
  · exact others.2 d inside
  · obtain rfl := List.mem_singleton.mp last
    exact word

namespace Span.Placement

variable {front back : List Segment} {slot : Segment} {token sentence : List Char} {span : Span}

/-- A sentence that is read with a slot in its place. -/
def toReading (placement : span.Placement front slot back sentence) :
    Reading (mergeWildcards front ++ slot :: mergeWildcards back) sentence where
  before := placement.earlier
  texts := placement.lead ++ placement.taken :: placement.trail
  after := placement.later
  sentence_eq := placement.sentence_eq
  realized := .of_split placement.leads placement.takes placement.trails

/-- The reading of a placement has its span. -/
theorem span_toReading (placement : span.Placement front slot back sentence) :
    placement.toReading.span = span :=
  placement.span_eq.symm

/-- No word goes on to the left from a slot for a person at the beginning of the template. -/
theorem before_apart_of_opening
    (placement : span.Placement [] (.slot .someone token) back sentence)
    (first : placement.toReading.IsFirst) : placement.before.getLast?.any isWordChar = false := by
  have nothing : placement.lead = [] := List.forall₂_nil_left_iff.mp placement.leads
  rw [before, nothing, List.flatten_nil, List.append_nil]
  rcases List.eq_nil_or_concat placement.earlier with begun | ⟨init, c, ended⟩
  · rw [begun]
    rfl
  · by_contra onward
    have word : isWordChar c = true := by simpa [ended] using onward
    have filled : IsWord (c :: placement.taken) := IsWord.cons word placement.takes
    -- The word with the character before it would be read further left.
    let longer : Reading ([] ++ .slot .someone token :: mergeWildcards back) sentence :=
      { before := init
        texts := (c :: placement.taken) :: placement.trail
        after := placement.later
        sentence_eq := by
          refine placement.sentence_eq.trans ?_
          rw [nothing, ended]
          simp
        realized := .cons filled placement.trails }
    have earlier : placement.toReading.before.length = longer.before.length + 1 := by
      change placement.earlier.length = init.length + 1
      rw [ended, List.concat_eq_append, List.length_append, List.length_singleton]
    rcases first longer with same | further | ⟨level, _⟩
    · rw [same] at earlier
      omega
    · omega
    · omega

/-- No word goes on to the right from a slot for a person at the end of the template. -/
theorem after_apart_of_closing
    (placement : span.Placement front (.slot .someone token) [] sentence)
    (first : placement.toReading.IsFirst) : placement.after.head?.any isWordChar = false := by
  have nothing : placement.trail = [] := Realizes.eq_nil placement.trails
  rw [after, nothing, List.flatten_nil, List.nil_append]
  cases ended : placement.later with
  | nil => rfl
  | cons c later =>
      by_contra onward
      have word : isWordChar c = true := by simpa using onward
      have filled : IsWord (placement.taken ++ [c]) := IsWord.concat placement.takes word
      have taken := first.eachPreferred (mergeWildcards front) .someone token []
        placement.lead placement.taken placement.trail rfl rfl placement.leads.length_eq
        (placement.taken ++ [c]) [] later
        (by simp [nothing, toReading, ended]) filled .nil
      rcases taken with same | prefers
      · exact absurd (List.append_right_eq_self.mp same) (List.cons_ne_nil _ _)
      · have shorter : (placement.taken ++ [c]).length < placement.taken.length := prefers
        rw [List.length_append] at shorter
        omega

end Span.Placement

namespace Idiom

/-- In a span that is found a slot that is no wildcard stands where the first reading has it. -/
theorem isFirst_toReading_of_find [SearchSize] {rules : List SlotRule} {expression : String}
    {sentence : List Char} {span : Span} {front back : List Segment} {slot : Segment}
    (other : slot.isWildcard = false)
    (read : segmentsOf rules expression = front ++ slot :: back)
    (found : (ofExpression rules expression).find sentence = .ok (some span))
    (placement : span.Placement front slot back sentence) : placement.toReading.IsFirst := by
  have parted : parts rules expression = mergeWildcards front ++ slot :: mergeWildcards back := by
    rw [parts, read, mergeWildcards_append_cons other]
  obtain ⟨reading, first, spanned⟩ := exists_isFirst_of_find found
  generalize parts rules expression = segments at parted reading
  subst parted
  rwa [first.eq_of_span_eq (placement.span_toReading.trans spanned.symm)]

/-- **A slot for a person is filled with a whole word.** In a span that is found the slot has a
place, where it takes a word, which the span reports. When the slot stands between plain text that
ends the words or the ends of the template, no character of a word stands right before this word or
right behind it. -/
theorem find_someone_whole [SearchSize] (expression : String) (sentence : List Char) (span : Span)
    (front back : List Segment) (token : List Char)
    (read : segmentsOf standardRules expression = front ++ .slot .someone token :: back)
    (left : front.getLast?.all Segment.closesWithGap = true)
    (right : back.head?.all Segment.opensWithGap = true)
    (found : (ofStandard expression).find sentence = .ok (some span)) :
    Nonempty (span.Placement front (.slot .someone token) back sentence) ∧
      ∀ placement : span.Placement front (.slot .someone token) back sentence,
        span.slots[slotCount (mergeWildcards front)]? = some placement.taken ∧
          IsWord placement.taken ∧ placement.Whole := by
  refine ⟨exists_placement_of_find rfl read found, fun placement => ⟨?_, ?_, ?_⟩⟩
  · exact placement.slots_getElem? rfl
  · exact placement.takes
  · have first := isFirst_toReading_of_find rfl read found placement
    rw [placement.whole_iff left right]
    constructor
    · intro opening
      rw [← placement.before_eq_preceding opening]
      subst opening
      exact placement.before_apart_of_opening first
    · intro closing
      rw [← placement.after_eq_remainder closing]
      subst closing
      exact placement.after_apart_of_closing first

/-- At the end of a template the word is taken whole. -/
theorem find_someone_whole_and :
    ∃ span, segmentsOf standardRules "(someone) and (someone)" =
        [.slot .someone "(someone)".toList, .literal " and ".toList] ++
          .slot .someone "(someone)".toList :: [] ∧
      (ofStandard "(someone) and (someone)").find "See Ann and Bob.".toList = .ok (some span) ∧
      ∀ placement : span.Placement
        [.slot .someone "(someone)".toList, .literal " and ".toList]
        (.slot .someone "(someone)".toList) [] "See Ann and Bob.".toList,
        placement.taken = "Bob".toList ∧ placement.Whole := by
  have read : segmentsOf standardRules "(someone) and (someone)" =
      [.slot .someone "(someone)".toList, .literal " and ".toList] ++
        .slot .someone "(someone)".toList :: [] := by
    decide +kernel
  have found : (ofStandard "(someone) and (someone)").find "See Ann and Bob.".toList =
      .ok (some ⟨4, 15, "Ann and Bob".toList, ["Ann".toList, "Bob".toList]⟩) := by cbv
  refine ⟨_, read, found, fun placement => ?_⟩
  have left : [Segment.slot .someone "(someone)".toList,
      .literal " and ".toList].getLast?.all Segment.closesWithGap = true := by
    decide +kernel
  obtain ⟨reported, _, whole⟩ :=
    (find_someone_whole _ _ _ _ _ _ read left rfl found).2 placement
  exact ⟨(Option.some.inj reported).symm, whole⟩

end Idiom

end Locution
