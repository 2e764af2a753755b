import Mathlib
import Locution.Pattern.Estimate
import Locution.Proofs.Pattern.Preference
import Locution.Proofs.Template.Placement

/-! # The preferred reading of a sentence

A sentence can be read as a template in several ways (`Reading`). Readings that begin further left
come before others, and of those that begin at one place the first slot that is filled differently
decides: a word for a person and a run to the end of a clause would be long, any other run short
(`Precedes`). What the search finds is the first of all readings (`Idiom.exists_isFirst_of_find`),
and the first of all readings is found (`Idiom.find_of_isFirst`).
-/

namespace Locution

open Text

/-- Whether a slot prefers one text to another; `closing` says that the slot ends the template. -/
def Slot.Prefers (closing : Bool) : Slot → List Char → List Char → Prop
  | .someone, text, other => other.length < text.length
  | .possessive, _, _ => False
  | .something, text, other | .tilde, text, other | .ellipsis, text, other =>
    if closing then other.length < text.length else text.length < other.length

/-- No two texts are preferred to each other. -/
theorem Slot.Prefers.asymm {closing : Bool} {kind : Slot} {text other : List Char}
    (prefers : kind.Prefers closing text other) : ¬ kind.Prefers closing other text := by
  cases kind with
  | someone => exact Nat.lt_asymm prefers
  | possessive => exact absurd prefers id
  | something | tilde | ellipsis => cases closing <;> exact Nat.lt_asymm prefers

theorem Slot.Prefers.ne {closing : Bool} {kind : Slot} {text other : List Char}
    (prefers : kind.Prefers closing text other) : text ≠ other := by
  intro same
  subst other
  exact prefers.asymm prefers

/-- Whether the texts that fill the slots of some segments are preferred to others. The first slot
that is filled differently decides. -/
inductive Precedes : List Segment → List (List Char) → List (List Char) → Prop where
  | plain {wanted : List Char} {parts : List Segment} {texts others : List (List Char)}
      (behind : Precedes parts texts others) : Precedes (.literal wanted :: parts) texts others
  | decided {kind : Slot} {token text other : List Char} {parts : List Segment}
      {texts others : List (List Char)} (prefers : kind.Prefers parts.isEmpty text other) :
      Precedes (.slot kind token :: parts) (text :: texts) (other :: others)
  | equal {kind : Slot} {token text : List Char} {parts : List Segment}
      {texts others : List (List Char)} (behind : Precedes parts texts others) :
      Precedes (.slot kind token :: parts) (text :: texts) (text :: others)

/-- No two ways to fill the slots precede each other. -/
theorem Precedes.asymm {parts : List Segment} {texts others : List (List Char)}
    (precedes : Precedes parts texts others) : ¬ Precedes parts others texts := by
  intro opposite
  induction precedes with
  | plain _ ih =>
      cases opposite with
      | plain behind => exact ih behind
  | decided prefers =>
      cases opposite with
      | decided opposed => exact prefers.asymm opposed
      | equal _ => exact prefers.ne rfl
  | equal _ ih =>
      cases opposite with
      | decided opposed => exact opposed.ne rfl
      | equal behind => exact ih behind

/-- Where the texts differ in one slot and nothing differs before it, that slot decides. -/
theorem Precedes.at_slot {front back : List Segment} {kind : Slot} {token taken text : List Char}
    {lead trail others : List (List Char)} (aligned : front.length = lead.length)
    (precedes : Precedes (front ++ .slot kind token :: back)
      (slotTexts (front ++ .slot kind token :: back) (lead ++ taken :: trail))
      (slotTexts (front ++ .slot kind token :: back) (lead ++ text :: others))) :
    text = taken ∨ kind.Prefers back.isEmpty taken text := by
  induction front generalizing lead with
  | nil =>
      obtain rfl := List.eq_nil_of_length_eq_zero aligned.symm
      cases precedes with
      | decided prefers => exact .inr prefers
      | equal _ => exact .inl rfl
  | cons first front ih =>
      cases lead with
      | nil => cases aligned
      | cons head lead =>
          have onward := @ih lead (Nat.succ.inj aligned)
          cases first with
          | literal wanted =>
              cases precedes with
              | plain behind => exact onward behind
          | slot =>
              cases precedes with
              | decided prefers => exact absurd rfl prefers.ne
              | equal behind => exact onward behind

/-- What a piece prefers for a slot, the slot prefers. -/
theorem Slot.prefers_of_piece {closing : Bool} {kind : Slot} {text other : List Char}
    (prefers : (kind.piece closing).Prefers text.length other.length) :
    kind.Prefers closing text other := by
  cases kind <;> cases closing <;> exact prefers

/-- The texts that the search takes come before all others that stand at the same place. -/
theorem precedes_of_preferred? {parts : List Segment} {texts others : List (List Char)}
    {after later : List Char}
    (found : (closingPieces parts).preferred? (texts.flatten ++ after) =
      some (texts.map List.length))
    (realized : Realizes parts others)
    (same : texts.flatten ++ after = others.flatten ++ later) :
    others = texts ∨ Precedes parts (slotTexts parts texts) (slotTexts parts others) := by
  induction realized generalizing texts with
  | nil => exact .inl (List.map_eq_nil_iff.mp (Option.some.inj found).symm).symm
  | @cons segment parts other others stands realized ih =>
      cases texts with
      | nil =>
          obtain ⟨_, _, taken⟩ := List.exists_of_findSome?_eq_some found
          obtain ⟨_, _, made⟩ := Option.map_eq_some_iff.mp taken
          cases made
      | cons text texts =>
          rw [List.flatten_cons, List.append_assoc] at found
          rw [List.flatten_cons, List.flatten_cons, List.append_assoc, List.append_assoc] at same
          rw [List.map_cons, closingPieces] at found
          -- The other texts are among what the search tries, so none of them can come first.
          have tried : other.length ∈ (segment.piece parts.isEmpty).attempts
              (text ++ (texts.flatten ++ after)) :=
            Piece.mem_attempts_iff.mpr
              ⟨other, _, same, rfl, (segment.takes_piece_iff _ _).mpr stands⟩
          have followed := Pattern.isSome_preferred?
            (realizedBy_closingPieces_iff.mpr realized) later
          rcases Pattern.prefers_of_preferred? found tried
            (by rwa [same, List.drop_left]) with equal | prefers
          · obtain ⟨rfl, behind⟩ := List.append_inj same equal
            have onward := Pattern.preferred?_of_cons found
            rw [List.drop_left] at onward
            rcases ih onward behind with rfl | precedes
            · exact .inl rfl
            · cases segment with
              | literal => exact .inr (.plain precedes)
              | slot => exact .inr (.equal precedes)
          · cases segment with
            | literal => cases prefers
            | slot => exact .inr (.decided (Slot.prefers_of_piece prefers))

/-- A way to read a sentence as segments: texts that realize them, with what stands before and after
these texts. -/
@[ext]
structure Reading (parts : List Segment) (sentence : List Char) where
  before : List Char
  texts : List (List Char)
  after : List Char
  sentence_eq : sentence = before ++ texts.flatten ++ after
  realized : Realizes parts texts

namespace Reading

variable {parts : List Segment} {sentence : List Char}

/-- The texts that fill the slots. -/
def slots (reading : Reading parts sentence) : List (List Char) :=
  slotTexts parts reading.texts

/-- The part of the sentence that is read. -/
def span (reading : Reading parts sentence) : Span where
  start := byteLength reading.before
  stop := byteLength (reading.before ++ reading.texts.flatten)
  text := reading.texts.flatten
  slots := reading.slots

/-- Whether a reading comes before another one: it begins further left, or at the same place with
preferred texts in its slots. -/
def ComesBefore (reading other : Reading parts sentence) : Prop :=
  reading.before.length < other.before.length ∨
    reading.before.length = other.before.length ∧ Precedes parts reading.slots other.slots

/-- Whether a reading comes before all other ones. -/
def IsFirst (reading : Reading parts sentence) : Prop :=
  ∀ other : Reading parts sentence, other = reading ∨ reading.ComesBefore other

/-- No two readings come before each other. -/
theorem ComesBefore.asymm {reading other : Reading parts sentence}
    (comes : reading.ComesBefore other) : ¬ other.ComesBefore reading := by
  rintro (further | ⟨same, opposite⟩)
  · rcases comes with left | ⟨same, _⟩
    · exact Nat.lt_asymm left further
    · exact Nat.ne_of_lt further same.symm
  · rcases comes with left | ⟨_, precedes⟩
    · exact Nat.ne_of_lt left same.symm
    · exact precedes.asymm opposite

/-- Only one reading comes before all others. -/
theorem IsFirst.unique {reading other : Reading parts sentence} (first : reading.IsFirst)
    (otherFirst : other.IsFirst) : other = reading := by
  rcases first other with same | comes
  · exact same
  · rcases otherFirst reading with same | opposite
    · exact same.symm
    · exact absurd opposite comes.asymm

theorem length_before_eq {reading other : Reading parts sentence}
    (same : byteLength other.before = byteLength reading.before) :
    other.before.length = reading.before.length := by
  have own := charIndex?_append reading.before (reading.texts.flatten ++ reading.after)
  have others := charIndex?_append other.before (other.texts.flatten ++ other.after)
  rw [← List.append_assoc, ← reading.sentence_eq] at own
  rw [← List.append_assoc, ← other.sentence_eq, same] at others
  exact Option.some.inj (others.symm.trans own)

/-- The first reading is the only one with its span. -/
theorem IsFirst.eq_of_span_eq {reading other : Reading parts sentence} (first : reading.IsFirst)
    (same : other.span = reading.span) : other = reading := by
  have level := length_before_eq (congrArg Span.start same)
  have slots : other.slots = reading.slots := congrArg Span.slots same
  rcases first other with equal | further | ⟨_, precedes⟩
  · exact equal
  · exact absurd level (Nat.ne_of_gt further)
  · rw [slots] at precedes
    exact absurd precedes precedes.asymm

/-- Whether each slot takes the text that it prefers among all those behind which the segments after
it can be read, when what stands before the slot is given. -/
def EachPreferred (reading : Reading parts sentence) : Prop :=
  ∀ front kind token back lead taken trail, parts = front ++ .slot kind token :: back →
    reading.texts = lead ++ taken :: trail → front.length = lead.length →
    ∀ text others later,
      taken ++ (trail.flatten ++ reading.after) = text ++ (others.flatten ++ later) →
      kind.FilledBy back.isEmpty text → Realizes back others →
      text = taken ∨ kind.Prefers back.isEmpty taken text

/-- In the first reading each slot takes what it prefers. -/
theorem IsFirst.eachPreferred {reading : Reading parts sentence} (first : reading.IsFirst) :
    reading.EachPreferred := by
  intro front kind token back lead taken trail parted made aligned text others later place fills
    realized
  subst parted
  obtain ⟨lead', taken', trail', split, leads, _, _⟩ := reading.realized.exists_split
  obtain ⟨rfl, rest⟩ := List.append_inj (made.symm.trans split)
    (aligned.symm.trans leads.length_eq)
  have whole : sentence = reading.before ++ (lead ++ text :: others).flatten ++ later := by
    refine reading.sentence_eq.trans ?_
    rw [made]
    simp [place]
  let other : Reading (front ++ .slot kind token :: back) sentence :=
    ⟨reading.before, lead ++ text :: others, later, whole, .of_split leads fills realized⟩
  rcases first other with same | further | ⟨_, precedes⟩
  · have texts : lead ++ text :: others = lead ++ taken :: trail :=
      (congrArg Reading.texts same).trans made
    exact .inl (List.cons.inj (List.append_cancel_left texts)).1
  · exact absurd further (Nat.lt_irrefl _)
  · rw [slots, slots, made] at precedes
    exact precedes.at_slot aligned

end Reading

namespace Idiom

section Preferred

variable [SearchSize] {rules : List SlotRule} {expression : String} {sentence : List Char}
  {span : Span}

/-- What is found is the first of all readings of the sentence. -/
theorem exists_isFirst_of_find
    (found : (ofExpression rules expression).find sentence = .ok (some span)) :
    ∃ reading : Reading (parts rules expression) sentence,
      reading.IsFirst ∧ reading.span = span := by
  obtain ⟨before, texts, after, split, made, realized, matched, leftmost⟩ := matched_of_find found
  have spanned := Span.ofMatch_texts (ofExpression rules expression).pattern before after texts
  rw [← split, ← made, pattern_ofExpression, captured_closingPieces] at spanned
  rw [pattern_ofExpression] at realized matched
  refine ⟨⟨before, texts, after, by rw [split, List.append_assoc],
    realizedBy_closingPieces_iff.mp realized⟩, fun other => ?_, spanned.symm⟩
  have otherSplit : sentence = other.before ++ (other.texts.flatten ++ other.after) := by
    rw [← List.append_assoc]
    exact other.sentence_eq
  rcases Nat.lt_trichotomy before.length other.before.length with left | level | further
  · exact .inr (.inl left)
  · obtain ⟨start, place⟩ := List.append_inj (split.symm.trans otherSplit) level
    rcases precedes_of_preferred? matched other.realized place with same | precedes
    · rw [same] at place
      exact .inl (Reading.ext start.symm same (List.append_cancel_left place).symm)
    · exact .inr (.inr ⟨level, precedes⟩)
  · have place : sentence.drop other.before.length = other.texts.flatten ++ other.after :=
      (congrArg (List.drop other.before.length) otherSplit).trans List.drop_left
    exact absurd other.realized (not_realized_of_preferred?
      (leftmost other.before.length further) other.texts other.after place)

/-- A pattern that is found is not too large. -/
theorem fits_of_find (found : (ofExpression rules expression).find sentence = .ok (some span)) :
    (ofExpression rules expression).pattern.fits = true := by
  rw [find_eq] at found
  split at found
  · cases found
  · split at found
    · assumption
    · cases found

/-- The first of all readings of a sentence is found. -/
theorem find_of_isFirst (filled : segmentsOf rules expression ≠ [])
    (fits : (ofExpression rules expression).pattern.fits = true)
    {reading : Reading (parts rules expression) sentence} (first : reading.IsFirst) :
    (ofExpression rules expression).find sentence = .ok (some reading.span) := by
  obtain ⟨result, found⟩ := exists_find_of_fits _ fits sentence
  cases result with
  | none =>
      rcases absent_of_find found with nothing | absent
      · exact absurd nothing filled
      · exact absurd ⟨reading.before, reading.after, reading.sentence_eq.symm⟩
          (absent reading.texts reading.realized)
  | some span =>
      obtain ⟨other, otherFirst, rfl⟩ := exists_isFirst_of_find found
      rw [found, first.unique otherFirst]

/-- **Of all readings that begin where the span begins, the search finds the preferred one.** The
first slot in which another reading differs holds a text there that the slot prefers less. So each
slot takes what it prefers among the texts that the rest of the template can follow, and a
possessive slot has no choice. -/
theorem find_preferred (expression : String) (sentence : List Char) (span : Span)
    (found : (ofStandard expression).find sentence = .ok (some span)) :
    ∃ reading : Reading (parts standardRules expression) sentence, reading.span = span ∧
      (∀ other : Reading (parts standardRules expression) sentence,
        byteLength other.before = span.start →
          other = reading ∨ Precedes (parts standardRules expression) span.slots other.slots) ∧
      reading.EachPreferred ∧
      ∀ taken other rest later, IsPronoun taken → IsPronoun other →
        taken ++ rest = other ++ later → taken = other := by
  obtain ⟨reading, first, rfl⟩ := exists_isFirst_of_find found
  refine ⟨reading, rfl, fun other start => ?_, first.eachPreferred,
    fun taken other rest later pronoun otherPronoun same => pronoun.unique otherPronoun same⟩
  rcases first other with same | further | ⟨_, precedes⟩
  · exact .inl same
  · exact absurd (Reading.length_before_eq start) (Nat.ne_of_gt further)
  · exact .inr precedes

end Preferred

/-- The run in the middle stays short and the one at the end grows long, where both could be
filled in another way. -/
theorem find_preferred_not_but :
    ∃ span, (ofStandard "not ~ but (something)").find "not red but new but old.".toList =
        .ok (some span) ∧ span.slots = ["red".toList, "new but old".toList] ∧
      ∃ reading : Reading (parts standardRules "not ~ but (something)")
          "not red but new but old.".toList, reading.span = span ∧
        ∀ other : Reading (parts standardRules "not ~ but (something)")
          "not red but new but old.".toList, byteLength other.before = span.start →
            other = reading ∨
              Precedes (parts standardRules "not ~ but (something)") span.slots other.slots := by
  have found : (ofStandard "not ~ but (something)").find "not red but new but old.".toList =
      .ok (some ⟨0, 23, "not red but new but old".toList,
        ["red".toList, "new but old".toList]⟩) := by cbv
  obtain ⟨reading, read, first, _⟩ := find_preferred _ _ _ found
  exact ⟨_, found, rfl, reading, read, first⟩

end Idiom

end Locution
