import Locution.Proofs.Template.Leftmost
import Locution.Proofs.Text.Gap
import Locution.Proofs.Text.Offset

/-! # Where a slot stands in a sentence

A span gives each slot of its template a part of the sentence, between what the segments before the
slot take and what those after it take (`Span.Placement`). A slot that is no wildcard has such a
place in every span that is found (`Idiom.exists_placement_of_find`), and its text is the one that
the span reports for it (`Span.Placement.slots_getElem?`). Where plain text next to the slot ends
the words around it, no word of the sentence goes on from there into the slot
(`Span.Placement.before_apart`, `Span.Placement.after_apart`).
-/

namespace Locution

open Text

namespace Segment

/-- Whether a segment is plain text that begins with a character between words. -/
def opensWithGap : Segment → Bool
  | .literal text => text.head?.any isGap
  | .slot _ _ => false

/-- Whether a segment is plain text that ends with a character between words. -/
def closesWithGap : Segment → Bool
  | .literal text => text.getLast?.any isGap
  | .slot _ _ => false

end Segment

/-- Wildcards are counted apart on both sides of a segment that is none. -/
theorem mergeWildcards_append_cons {segment : Segment} (other : segment.isWildcard = false)
    (front back : List Segment) :
    mergeWildcards (front ++ segment :: back) =
      mergeWildcards front ++ segment :: mergeWildcards back := by
  induction front with
  | nil => exact mergeWildcards_cons_of_not_wildcard other back
  | cons first front ih =>
      have next : (front ++ segment :: back).head?.any Segment.isWildcard =
          front.head?.any Segment.isWildcard := by
        cases front with
        | nil => simp [other]
        | cons => rfl
      simp only [List.cons_append, mergeWildcards, next, ih]
      split <;> rfl

/-- What realizes segments comes apart where they do. -/
theorem Realizes.exists_split {front back : List Segment} {segment : Segment}
    {texts : List (List Char)} (realized : Realizes (front ++ segment :: back) texts) :
    ∃ lead taken trail, texts = lead ++ taken :: trail ∧
      List.Forall₂ (Segment.StandsFor false) front lead ∧
      segment.StandsFor back.isEmpty taken ∧ Realizes back trail := by
  induction front generalizing texts with
  | nil =>
      cases realized with
      | @cons _ _ taken trail stands others =>
          exact ⟨[], taken, trail, rfl, .nil, stands, others⟩
  | cons first front ih =>
      rw [List.cons_append] at realized
      cases realized with
      | @cons _ _ text texts stands others =>
          obtain ⟨lead, taken, trail, rfl, leads, takes, trails⟩ := ih others
          have followed : (front ++ segment :: back).isEmpty = false := by
            cases front <;> rfl
          rw [followed] at stands
          exact ⟨text :: lead, taken, trail, rfl, .cons stands leads, takes, trails⟩

theorem Realizes.eq_nil {texts : List (List Char)} (realized : Realizes [] texts) :
    texts = [] := by
  cases realized
  rfl

/-- What realizes two parts of some segments realizes them together. -/
theorem Realizes.of_split {front back : List Segment} {segment : Segment}
    {lead trail : List (List Char)} {taken : List Char}
    (leads : List.Forall₂ (Segment.StandsFor false) front lead)
    (takes : segment.StandsFor back.isEmpty taken) (trails : Realizes back trail) :
    Realizes (front ++ segment :: back) (lead ++ taken :: trail) := by
  induction leads with
  | nil => exact .cons takes trails
  | @cons first text front lead stands _ ih =>
      have followed : (front ++ segment :: back).isEmpty = false := by
        cases front <;> rfl
      exact .cons (followed ▸ stands) ih

/-- The number of texts that a span reports for the slots of some segments. -/
def slotCount (parts : List Segment) : Nat :=
  (parts.filterMap Segment.slot?).length

/-- The texts of slots of two parts are those of the first one and then of the second one. -/
theorem slotTexts_append {front back : List Segment} {lead trail : List (List Char)}
    (aligned : front.length = lead.length) :
    slotTexts (front ++ back) (lead ++ trail) = slotTexts front lead ++ slotTexts back trail := by
  rw [slotTexts, List.zip_append aligned, List.filterMap_append]
  rfl

/-- There are as many texts of slots as slots. -/
theorem length_slotTexts {parts : List Segment} {texts : List (List Char)}
    (aligned : parts.length = texts.length) : (slotTexts parts texts).length = slotCount parts := by
  induction parts generalizing texts with
  | nil => rfl
  | cons segment parts ih =>
      cases texts with
      | nil => cases aligned
      | cons text texts =>
          have others := ih (Nat.succ.inj aligned)
          cases segment with
          | literal => exact others
          | slot => exact congrArg Nat.succ others

/-- A way to read a span of a sentence as a template with a slot between two sequences of segments.
The sentence goes on from `earlier` with the texts `lead` for the segments before the slot, the text
`taken` for the slot and the texts `trail` for the segments after it, and ends with `later`. -/
structure Span.Placement (front : List Segment) (slot : Segment) (back : List Segment)
    (sentence : List Char) (span : Span) where
  earlier : List Char
  lead : List (List Char)
  taken : List Char
  trail : List (List Char)
  later : List Char
  sentence_eq : sentence = earlier ++ (lead ++ taken :: trail).flatten ++ later
  leads : List.Forall₂ (Segment.StandsFor false) (mergeWildcards front) lead
  takes : slot.StandsFor (mergeWildcards back).isEmpty taken
  trails : Realizes (mergeWildcards back) trail
  span_eq : span = ⟨byteLength earlier, byteLength (earlier ++ (lead ++ taken :: trail).flatten),
    (lead ++ taken :: trail).flatten,
    slotTexts (mergeWildcards front ++ slot :: mergeWildcards back) (lead ++ taken :: trail)⟩

namespace Span.Placement

variable {front back : List Segment} {slot : Segment} {sentence : List Char} {span : Span}

/-- The sentence up to the text for the slot. -/
def before (placement : span.Placement front slot back sentence) : List Char :=
  placement.earlier ++ placement.lead.flatten

/-- The sentence behind the text for the slot. -/
def after (placement : span.Placement front slot back sentence) : List Char :=
  placement.trail.flatten ++ placement.later

/-- Whether no word of the sentence goes on into the text for the slot or from it. -/
def Whole (placement : span.Placement front slot back sentence) : Prop :=
  placement.before.getLast?.any isWordChar = false ∧
    placement.after.head?.any isWordChar = false

/-- The text at a slot is listed behind those of the slots before it. -/
theorem slots_getElem? (placement : span.Placement front slot back sentence)
    (isSlot : slot.slot?.isSome = true) :
    span.slots[slotCount (mergeWildcards front)]? = some placement.taken := by
  have aligned := placement.leads.length_eq
  have reported : span.slots =
      slotTexts (mergeWildcards front) placement.lead ++
        placement.taken :: slotTexts (mergeWildcards back) placement.trail := by
    obtain ⟨marker, isMarker⟩ := Option.isSome_iff_exists.mp isSlot
    refine (congrArg Span.slots placement.span_eq).trans ?_
    rw [slotTexts_append aligned]
    simp [slotTexts, isMarker]
  rw [reported, List.getElem?_append_right (length_slotTexts aligned).le, length_slotTexts aligned,
    Nat.sub_self, List.getElem?_cons_zero]

/-- Where plain text before the slot ends the words, no word goes on from there into the slot. -/
theorem before_apart (placement : span.Placement front slot back sentence)
    (gap : front.getLast?.any Segment.closesWithGap = true) :
    placement.before.getLast?.any isWordChar = false := by
  obtain ⟨last, ended, closes⟩ := (Option.any_eq_true _ _).mp gap
  obtain ⟨init, rfl⟩ := List.getLast?_eq_some_iff.mp ended
  cases last with
  | slot => cases closes
  | literal wanted =>
      have backwards : List.Forall₂ (Segment.StandsFor false)
          (.literal wanted :: (mergeWildcards init).reverse) placement.lead.reverse := by
        have leads := placement.leads
        rw [mergeWildcards_append_cons rfl, ← List.forall₂_reverse_iff] at leads
        simpa [mergeWildcards] using leads
      cases reversed : placement.lead.reverse with
      | nil =>
          rw [reversed] at backwards
          cases backwards
      | cons text texts =>
          rw [reversed] at backwards
          obtain ⟨same, _⟩ := List.forall₂_cons.mp backwards
          have lead : placement.lead = texts.reverse ++ [text] := by
            rw [← List.reverse_reverse placement.lead, reversed, List.reverse_cons]
          have ends := SameFolded.getLast?_of_isGap same closes
            (placement.earlier ++ texts.reverse.flatten)
          simpa [before, lead] using ends

/-- Where plain text after the slot begins with no word, no word goes on from the slot. -/
theorem after_apart (placement : span.Placement front slot back sentence)
    (gap : back.head?.any Segment.opensWithGap = true) :
    placement.after.head?.any isWordChar = false := by
  obtain ⟨first, begun, opens⟩ := (Option.any_eq_true _ _).mp gap
  cases back with
  | nil => cases begun
  | cons next rest =>
      obtain rfl := Option.some.inj begun
      cases next with
      | slot => cases opens
      | literal wanted =>
          have trails := placement.trails
          rw [mergeWildcards_cons_of_not_wildcard rfl] at trails
          cases trailEq : placement.trail with
          | nil =>
              rw [trailEq] at trails
              cases trails
          | cons text texts =>
              rw [trailEq] at trails
              cases trails with
              | cons same _ =>
                  have begins := SameFolded.head?_of_isGap same opens
                    (texts.flatten ++ placement.later)
                  simpa [after, trailEq] using begins

end Span.Placement

namespace Idiom

/-- A slot that is no wildcard has a place in every span that is found. -/
theorem exists_placement_of_find [SearchSize] {rules : List SlotRule} {expression : String}
    {sentence : List Char} {span : Span} {front back : List Segment} {slot : Segment}
    (other : slot.isWildcard = false)
    (read : segmentsOf rules expression = front ++ slot :: back)
    (found : (ofExpression rules expression).find sentence = .ok (some span)) :
    Nonempty (span.Placement front slot back sentence) := by
  obtain ⟨before, texts, after, split, realized, made, _⟩ := found_of_find found
  have parted : parts rules expression = mergeWildcards front ++ slot :: mergeWildcards back := by
    rw [parts, read, mergeWildcards_append_cons other]
  rw [parted] at realized made
  obtain ⟨lead, taken, trail, rfl, leads, takes, trails⟩ := realized.exists_split
  exact ⟨⟨before, lead, taken, trail, after, split, leads, takes, trails, made⟩⟩

end Idiom

end Locution
