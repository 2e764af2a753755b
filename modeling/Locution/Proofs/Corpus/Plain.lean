import Locution.Pattern.Estimate
import Locution.Proofs.Corpus.NormalForm
import Locution.Proofs.Corpus.Scan
import Locution.Proofs.Template.Elision
import Locution.Proofs.Template.Leftmost
import Locution.Proofs.Template.Segmentation
import Locution.Proofs.Text.Lowercase

/-! # Expressions without slots

The pattern of an expression without slots is found where a part of the sentence equals what is read
of the expression up to case (`holdsFolded_of_find`). Equal texts of ASCII have one normal form, and
the white space and the elision that are cut off an expression leave nothing in its normal form
(`normalForm_trim_dropElision`). So within ASCII the pattern tier finds an expression without slots
only where it stands word for word, and no mismatch of a scan holds its expression
(`Engine.isVerbatim_of_plain_match`).
-/

namespace Locution

open Text

/-- Whether all characters of a text belong to ASCII. -/
def Text.IsAscii (text : List Char) : Prop :=
  ∀ c ∈ text, c.toNat < 128

instance : DecidablePred IsAscii := fun text =>
  decidable_of_iff (text.all (·.toNat < 128) = true) (by
    simp only [IsAscii, List.all_eq_true, decide_eq_true_eq])

/-- Whether a part of a text equals a wanted text up to case. -/
def Text.HoldsFolded (wanted text : List Char) : Prop :=
  ∃ part, part <:+: text ∧ SameFolded wanted part

theorem Text.IsAscii.of_part {part text : List Char} (ascii : IsAscii text)
    (inside : part <:+: text) : IsAscii part := by
  intro c member
  exact ascii c (inside.subset member)

variable {expression sentence : String}

/-- What is read of a template is a part of it. -/
theorem trim_dropElision_within (template : List Char) :
    trim (dropElision template) <:+: template := by
  obtain ⟨lead, tail, _, _, split⟩ := exists_around_trim_dropElision template
  exact ⟨lead, tail, split.symm⟩

/-- Within ASCII the characters that are cut off a template leave nothing in a normal form. -/
theorem isUncounted_of_elision {c : Char} (ascii : c.toNat < 128)
    (elided : isSpace c = true ∨ c = '~' ∨ c = '.') : IsUncounted c := by
  have each : ∀ code < 128, isSpace (Char.ofNat code) = true ∨ Char.ofNat code = '~' ∨
      Char.ofNat code = '.' → IsUncounted (Char.ofNat code) := by decide +kernel
  have uncounted := each c.toNat ascii
  rw [Char.ofNat_toNat] at uncounted
  exact uncounted elided

/-- What is read of an expression of ASCII has the normal form of the whole. -/
theorem normalForm_trim_dropElision {template : List Char} (ascii : IsAscii template) :
    normalForm (trim (dropElision template)) = normalForm template := by
  obtain ⟨lead, tail, blank, elided, split⟩ := exists_around_trim_dropElision template
  have before : ∀ c ∈ lead, IsUncounted c := by
    intro c member
    refine isUncounted_of_elision (ascii c ?_) (.inl (blank c member))
    rw [split, List.append_assoc]
    exact List.mem_append_left _ member
  have behind : ∀ c ∈ tail, IsUncounted c := by
    intro c member
    refine isUncounted_of_elision (ascii c ?_) (elided.of_mem member)
    rw [split]
    exact List.mem_append_right _ member
  have around := normalForm_around before behind (trim (dropElision template))
  rw [← split] at around
  exact around.symm

/-- Texts of ASCII that are equal up to case have one normal form. -/
theorem normalForm_eq_of_sameFolded {wanted text : List Char} (same : SameFolded wanted text)
    (wantedAscii : IsAscii wanted) (textAscii : IsAscii text) :
    normalForm text = normalForm wanted := by
  have kept {characters : List Char} (ascii : IsAscii characters) :
      ∀ c ∈ characters, keepsLowercase c = true := by
    intro c member
    exact keepsLowercase_of_ascii (ascii c member)
  rw [normalForm, normalForm,
    flatMap_lowerChar_eq_of_sameFolded same (kept wantedAscii) (kept textAscii)]

/-- An expression stands word for word in a text of ASCII that holds a text with its normal form. -/
theorem isVerbatim_of_holdsFolded {wanted : List Char} (held : HoldsFolded wanted sentence.toList)
    (wantedAscii : IsAscii wanted) (sentenceAscii : IsAscii sentence.toList)
    (form : normalForm wanted = normalForm expression.toList) :
    isVerbatim expression sentence = true := by
  obtain ⟨part, inside, same⟩ := held
  have partAscii : IsAscii part := sentenceAscii.of_part inside
  obtain ⟨before, after, split⟩ := inside
  have within := normalForm_infix before part after
  rw [split, normalForm_eq_of_sameFolded same wantedAscii partAscii, form] at within
  rw [isVerbatim, occursIn_iff]
  exact within

/-- An expression without slots is found only where the sentence holds what is read of it. -/
theorem Idiom.holdsFolded_of_find [SearchSize] {span : Span}
    (slotless : (ofStandard expression).slots = [])
    (found : (ofStandard expression).find sentence.toList = .ok (some span)) :
    HoldsFolded (trim (dropElision expression.toList)) sentence.toList := by
  have plain : ∀ segment ∈ segmentsOf standardRules expression, segment.slot? = none :=
    List.filterMap_eq_nil_iff.mp slotless
  have written : (segmentsOf standardRules expression).flatMap Segment.written =
      trim (dropElision expression.toList) :=
    (segmentation_segments (by decide) _).flatMap_written
  obtain ⟨before, texts, after, split, realized, _⟩ := found_of_find found
  rw [parts, mergeWildcards_eq_self plain] at realized
  refine ⟨texts.flatten, ⟨before, after, split.symm⟩, ?_⟩
  rw [← written]
  exact realized.sameFolded plain

/-- Within ASCII the pattern of an expression without slots is found only where the expression
stands word for word. -/
theorem Request.isVerbatim_of_hit? [SearchSize] {request : Request}
    (expressionAscii : IsAscii request.expression.toList)
    (sentenceAscii : IsAscii request.sentence.toList)
    (slotless : (Idiom.ofStandard request.expression).slots = [])
    (hit : request.hit?.isSome = true) :
    isVerbatim request.expression request.sentence = true := by
  obtain ⟨finding, hit⟩ := Option.isSome_iff_exists.mp hit
  obtain ⟨span, found, _⟩ := Request.hit?_eq_some hit
  have held := Idiom.holdsFolded_of_find slotless found
  exact isVerbatim_of_holdsFolded held (expressionAscii.of_part (trim_dropElision_within _))
    sentenceAscii (normalForm_trim_dropElision expressionAscii)

namespace Engine

variable {σ : Type}

/-- **Within ASCII an expression without slots is found only word for word.** When the pattern tier
finds an expression of ASCII without slots in a sentence of ASCII, the expression stands there word
for word. So no mismatch of a scan, where both are of ASCII, holds its expression up to case, be it
as it is written or without what is cut off its ends, and the pattern tier does not settle it when
its expression has no slots. -/
theorem isVerbatim_of_plain_match [SearchSize] (engine : Engine σ) :
    (∀ (request : Request) (desk : Desk σ), IsAscii request.expression.toList →
      IsAscii request.sentence.toList → (Idiom.ofStandard request.expression).slots = [] →
      (engine.tryPattern request desk).1.isSome = true →
        isVerbatim request.expression request.sentence = true) ∧
    ∀ (fallback : Bool) (pace : Pace) (corpus : Corpus) (desk : Desk σ),
      ∀ record ∈ mismatches (engine.scan fallback pace corpus desk).1,
        IsAscii record.expression.toList → IsAscii record.text.toList →
          ¬ HoldsFolded record.expression.toList record.text.toList ∧
          ¬ HoldsFolded (trim (dropElision record.expression.toList)) record.text.toList ∧
          ((Idiom.ofStandard record.expression).slots = [] → record.finding.tier ≠ .pattern) := by
  constructor
  · intro request desk expressionAscii sentenceAscii slotless found
    have tier := patternTier_fst request
    rw [tryPattern] at found
    exact request.isVerbatim_of_hit? expressionAscii sentenceAscii slotless (tier ▸ found)
  · intro fallback pace corpus desk record listed expressionAscii textAscii
    obtain ⟨made, mismatched⟩ := List.mem_filter.mp listed
    obtain ⟨sample, _, memory, rfl⟩ :=
      exists_mem_related (engine.forall₂_scan fallback pace corpus desk) made
    have apart : isVerbatim sample.request.expression sample.request.sentence ≠ true := by
      intro verbatim
      rw [Sample.record, verbatim] at mismatched
      cases mismatched
    refine ⟨?_, ?_, ?_⟩
    · intro held
      exact apart (isVerbatim_of_holdsFolded held expressionAscii textAscii rfl)
    · intro held
      exact apart (isVerbatim_of_holdsFolded held
        (expressionAscii.of_part (trim_dropElision_within _)) textAscii
        (normalForm_trim_dropElision expressionAscii))
    · intro slotless settled
      exact apart (sample.request.isVerbatim_of_hit? expressionAscii textAscii slotless
        (engine.isSome_hit?_of_tier fallback sample.request settled))

/-- Case, an elision and the punctuation between words do not keep an expression from being found
word for word, and an example in other words is a mismatch. -/
theorem isVerbatim_of_plain_match_touch_base :
    let engine : Engine Unit := ⟨none⟩
    let request : Request := ⟨" Touch-base soon ~ ...", "Let us TOUCH-BASE soon, then."⟩
    let entry : Entry := ⟨"on board...", none, none, none, none, [⟨"Welcome aboard!", none⟩]⟩
    let record : Record := ⟨0, 0, "on board...", "Welcome aboard!", false, .unmatched .neither⟩
    (Idiom.ofStandard request.expression).slots = [] ∧
      (engine.tryPattern request (Desk.ofMemory ())).1.isSome = true ∧
      isVerbatim request.expression request.sentence = true ∧
      record ∈ mismatches (engine.scan true .sequential [entry] (Desk.ofMemory ())).1 ∧
      ¬ HoldsFolded (trim (dropElision record.expression.toList)) record.text.toList := by
  intro engine request entry record
  have slotless : (Idiom.ofStandard request.expression).slots = [] := by cbv
  have found : (engine.tryPattern request (Desk.ofMemory ())).1.isSome = true := by
    decide +kernel
  have listed : record ∈ mismatches
      (engine.scan true .sequential [entry] (Desk.ofMemory ())).1 := by
    decide +kernel
  obtain ⟨verbatim, apart⟩ := isVerbatim_of_plain_match engine
  refine ⟨slotless, found, ?_, listed, ?_⟩
  · exact verbatim request (Desk.ofMemory ()) (by decide +kernel) (by decide +kernel) slotless found
  · exact (apart true .sequential [entry] (Desk.ofMemory ()) record listed (by decide +kernel)
      (by decide +kernel)).2.1

end Engine

/-- Outside ASCII a long s is found for an s, though it is no part of a normal form. -/
example : (Request.mk "ask" "May I aſk you?").hit?.isSome = true ∧
    isVerbatim "ask" "May I aſk you?" = false := by
  decide +kernel

end Locution
