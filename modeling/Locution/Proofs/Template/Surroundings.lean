import Locution.Pattern.Estimate
import Locution.Proofs.Template.Preference

/-! # The text around a span

Nothing looks at the text around a span. A reading of a part of a sentence is a reading of the whole
(`Reading.widen`), and the order of the readings stays the same, so the first reading of the whole
is the first one of every part that contains it (`Reading.IsFirst.of_widen`). An idiom is thus found
again in every such part, at the same place and with the same slots, the matched text alone
included.
-/

namespace Locution

open Text

/-- The span that lies a number of bytes further right. -/
def Span.shift (bytes : Nat) (span : Span) : Span :=
  { span with start := bytes + span.start, stop := bytes + span.stop }

namespace Reading

variable {parts : List Segment} {earlier window later : List Char}

/-- A reading of a part of a sentence as a reading of the sentence. -/
def widen (earlier later : List Char) (reading : Reading parts window) :
    Reading parts (earlier ++ window ++ later) where
  before := earlier ++ reading.before
  texts := reading.texts
  after := reading.after ++ later
  sentence_eq := by
    have split := congrArg (earlier ++ · ++ later) reading.sentence_eq
    simpa only [List.append_assoc] using split
  realized := reading.realized

/-- The span of a reading is moved by the bytes in front of the window. -/
theorem span_widen (reading : Reading parts window) :
    (reading.widen earlier later).span = reading.span.shift (byteLength earlier) := by
  simp [widen, span, slots, Span.shift, byteLength_append]

/-- Readings that are the same in the sentence are the same in the window. -/
theorem widen_injective {reading other : Reading parts window}
    (same : other.widen earlier later = reading.widen earlier later) : other = reading := by
  have begun : earlier ++ other.before = earlier ++ reading.before := congrArg Reading.before same
  have taken : (other.widen earlier later).texts = (reading.widen earlier later).texts :=
    congrArg Reading.texts same
  have ended : other.after ++ later = reading.after ++ later := congrArg Reading.after same
  exact Reading.ext (List.append_cancel_left begun) taken (List.append_cancel_right ended)

/-- Of two readings of a window, the one that comes before in the sentence comes before in the
window. -/
theorem comesBefore_of_widen {reading other : Reading parts window}
    (comes : (reading.widen earlier later).ComesBefore (other.widen earlier later)) :
    reading.ComesBefore other := by
  have longer (inner : Reading parts window) :
      (inner.widen earlier later).before.length = earlier.length + inner.before.length :=
    List.length_append
  rcases comes with left | ⟨level, precedes⟩
  · rw [longer, longer] at left
    exact .inl (Nat.lt_of_add_lt_add_left left)
  · rw [longer, longer] at level
    exact .inr ⟨Nat.add_left_cancel level, precedes⟩

/-- What is first among the readings of a sentence is first among those of a part. -/
theorem IsFirst.of_widen {reading : Reading parts window}
    (first : (reading.widen earlier later).IsFirst) : reading.IsFirst := by
  intro other
  rcases first (other.widen earlier later) with same | comes
  · exact .inl (widen_injective same)
  · exact .inr (comesBefore_of_widen comes)

/-- A reading whose span lies in a part of the sentence comes from a reading of that part. -/
theorem exists_widen_eq (reading : Reading parts (earlier ++ window ++ later))
    (opens : byteLength earlier ≤ reading.span.start)
    (closes : reading.span.stop ≤ byteLength (earlier ++ window)) :
    ∃ inner : Reading parts window, inner.widen earlier later = reading := by
  obtain ⟨before, texts, after, split, realized⟩ := reading
  have upTo : byteLength (before ++ texts.flatten) ≤ byteLength (earlier ++ window) := closes
  rw [List.append_assoc, List.append_assoc] at split
  obtain ⟨lead, rfl, inside⟩ := exists_append_of_byteLength_le split opens
  rw [List.append_assoc, byteLength_append earlier, byteLength_append earlier] at upTo
  rw [← List.append_assoc] at inside
  obtain ⟨trail, whole, rfl⟩ :=
    exists_append_of_byteLength_le inside.symm (Nat.le_of_add_le_add_left upTo)
  exact ⟨⟨lead, texts, trail, whole, realized⟩, rfl⟩

end Reading

namespace Idiom

section Window

variable [SearchSize] {rules : List SlotRule} {expression : String}
  {earlier window later : List Char} {span : Span}

theorem segmentsOf_ne_nil_of_find {sentence : List Char}
    (found : (ofExpression rules expression).find sentence = .ok (some span)) :
    segmentsOf rules expression ≠ [] := by
  intro nothing
  have empty : (ofExpression rules expression).isEmpty = true := by
    rw [isEmpty_ofExpression, nothing, List.isEmpty_nil]
  rw [find_eq, if_pos empty] at found
  cases found

/-- What is found in a sentence is found in every part of it that contains the span. -/
theorem exists_find_window
    (found : (ofExpression rules expression).find (earlier ++ window ++ later) = .ok (some span))
    (opens : byteLength earlier ≤ span.start)
    (closes : span.stop ≤ byteLength (earlier ++ window)) :
    ∃ inner, (ofExpression rules expression).find window = .ok (some inner) ∧
      span = inner.shift (byteLength earlier) := by
  obtain ⟨reading, first, rfl⟩ := exists_isFirst_of_find found
  obtain ⟨inner, rfl⟩ := reading.exists_widen_eq opens closes
  exact ⟨inner.span, find_of_isFirst (segmentsOf_ne_nil_of_find found) (fits_of_find found)
    first.of_widen, inner.span_widen⟩

/-- What is found is found again in its own text, and takes all of it. -/
theorem find_text {sentence : List Char}
    (found : (ofExpression rules expression).find sentence = .ok (some span)) :
    (ofExpression rules expression).find span.text =
      .ok (some ⟨0, byteLength span.text, span.text, span.slots⟩) := by
  obtain ⟨before, texts, after, rfl, _, rfl, _⟩ := found_of_find found
  obtain ⟨inner, again, same⟩ := exists_find_window found (Nat.le_refl _) (Nat.le_refl _)
  obtain ⟨start, stop, text, slots⟩ := inner
  obtain ⟨starts, stops, rfl, rfl⟩ := Span.mk.inj same
  rw [byteLength_append] at stops
  obtain rfl : 0 = start := Nat.add_left_cancel starts
  obtain rfl : byteLength texts.flatten = stop := Nat.add_left_cancel stops
  exact again

/-- **A match does not depend on the text around it.** An expression that is found in a sentence is
found in every part of the sentence that contains the span. It is the same span there, counted from
the beginning of the part, with the same text and the same slots. In the matched text alone the span
is the whole of it. -/
theorem find_window (expression : String) (earlier window later : List Char) (span : Span)
    (found : (ofStandard expression).find (earlier ++ window ++ later) = .ok (some span))
    (opens : byteLength earlier ≤ span.start)
    (closes : span.stop ≤ byteLength (earlier ++ window)) :
    (∃ inner, (ofStandard expression).find window = .ok (some inner) ∧
      span = inner.shift (byteLength earlier)) ∧
    (ofStandard expression).find span.text =
      .ok (some ⟨0, byteLength span.text, span.text, span.slots⟩) :=
  ⟨exists_find_window found opens closes, find_text found⟩

end Window

/-- A question that is cut on both sides keeps its match. -/
theorem find_window_take_through :
    ∃ span, (ofStandard "take (someone) through").find
        ("Can é ".toList ++ "you take me through".toList ++ " it?".toList) = .ok (some span) ∧
      byteLength "Can é ".toList ≤ span.start ∧
      span.stop ≤ byteLength ("Can é ".toList ++ "you take me through".toList) ∧
      ∃ inner, (ofStandard "take (someone) through").find "you take me through".toList =
          .ok (some inner) ∧ span = inner.shift (byteLength "Can é ".toList) := by
  have found : (ofStandard "take (someone) through").find
      ("Can é ".toList ++ "you take me through".toList ++ " it?".toList) =
        .ok (some ⟨11, 26, "take me through".toList, ["me".toList]⟩) := by cbv
  have opens : byteLength "Can é ".toList ≤ 11 := by decide
  have closes : 26 ≤ byteLength ("Can é ".toList ++ "you take me through".toList) := by decide
  exact ⟨_, found, opens, closes, (find_window _ _ _ _ _ found opens closes).1⟩

end Idiom

end Locution
