import Locution.Proofs.Template.Markers

/-! # Templates between separators

A character of no word that stands in no marker separates what is before it from what is behind it
(`Separates`). A rule reads a marker before the separator as if the template ended there
(`Separates.readSlot?_append`), and so does a run of word characters. So the pieces that are read
are those of both sides with the separator between them (`Separates.readSegments_append`), and the
segments are the same with plain text joined (`segments_separated`).
-/

namespace Locution

open Text

/-- Whether a character is part of no word and of no marker. -/
structure Separates (rules : List SlotRule) (c : Char) : Prop where
  other : isTemplateWordChar c = false
  unmarked : ∀ rule ∈ rules, c ∉ rule.token

/-- Segments with neighbouring plain text joined. -/
def Segment.coalesced (parts : List Segment) : List Segment :=
  parts.foldr join []

section Letters

/-- The ASCII characters that belong to no word have no case. -/
theorem toLower_of_code_of_not_word : ∀ code < 128,
    isTemplateWordChar (Char.ofNat code) = false →
      (Char.ofNat code).toLower = Char.ofNat code := by
  decide +kernel

/-- A character that belongs to no word has no case. -/
theorem toLower_of_not_word {c : Char} (other : isTemplateWordChar c = false) : c.toLower = c := by
  by_cases ascii : c.toNat < 128
  · have kept := toLower_of_code_of_not_word c.toNat ascii
    rw [Char.ofNat_toNat] at kept
    exact kept other
  · exact toLower_of_beyond ascii

/-- A character of no word has no other letter case. -/
theorem eq_of_asciiFoldEq_of_not_word {a c : Char} (other : isTemplateWordChar c = false)
    (same : asciiFoldEq a c = true) : a = c := by
  rw [asciiFoldEq, beq_iff_eq, toLower_of_not_word other] at same
  have otherToo : isTemplateWordChar a = false := by
    rw [← isTemplateWordChar_toLower, same, other]
  rw [← same, toLower_of_not_word otherToo]

end Letters

namespace Separates

variable {rules : List SlotRule} {c : Char}

/-- A marker that does not hold the separator stands before it, or not at all. -/
theorem dropLead_append {lead : List Char} (other : isTemplateWordChar c = false)
    (apart : c ∉ lead) (before after : List Char) :
    dropLead asciiFoldEq lead (before ++ c :: after) =
      (dropLead asciiFoldEq lead before).map (· ++ c :: after) := by
  induction lead generalizing before with
  | nil => rfl
  | cons a lead ih =>
      have differs : c ≠ a := List.ne_of_not_mem_cons apart
      have apart : c ∉ lead := List.not_mem_of_not_mem_cons apart
      cases before with
      | nil =>
          have unequal : asciiFoldEq a c = false := by
            rw [Bool.eq_false_iff]
            intro same
            exact differs (eq_of_asciiFoldEq_of_not_word other same).symm
          rw [List.nil_append, dropLead, dropLead, unequal, if_neg Bool.false_ne_true,
            Option.map_none]
      | cons d before =>
          rw [List.cons_append, dropLead, dropLead, ih apart]
          split <;> rfl

/-- No word goes on behind the end of a text or behind a separator. -/
theorem opensWithWord_append (other : isTemplateWordChar c = false) (before after : List Char) :
    opensWithWord (before ++ c :: after) = opensWithWord before := by
  cases before with
  | nil => exact other
  | cons d before => rfl

/-- A rule reads the same before a separator, and leaves the separator with what is behind it. -/
theorem read?_append {rule : SlotRule} (other : isTemplateWordChar c = false)
    (apart : c ∉ rule.token) (before after : List Char) :
    rule.read? (before ++ c :: after) =
      (rule.read? before).map fun (segment, rest) => (segment, rest ++ c :: after) := by
  unfold SlotRule.read? SlotRule.rest?
  split
  · rfl
  · rw [dropLead_append other apart]
    cases dropped : dropLead asciiFoldEq rule.token before with
    | none => rfl
    | some rest =>
        have within : rule.token.length ≤ before.length := by
          rw [length_of_dropLead dropped]
          exact Nat.le_add_right _ _
        rw [Option.map_some, Option.filter_some, Option.filter_some, opensWithWord_append other,
          List.take_append_of_le_length within]
        split <;> rfl

/-- Before a separator the same slot is read as at the end of a template. -/
theorem readSlot?_append (separates : Separates rules c) (before after : List Char) :
    readSlot? rules (before ++ c :: after) =
      (readSlot? rules before).map fun (segment, rest) => (segment, rest ++ c :: after) := by
  obtain ⟨other, unmarked⟩ := separates
  induction rules with
  | nil => rfl
  | cons rule rules ih =>
      obtain ⟨apart, unmarked⟩ := List.forall_mem_cons.mp unmarked
      rw [readSlot?, readSlot?, List.findSome?_cons, List.findSome?_cons, read?_append other apart]
      cases rule.read? before with
      | some found => rfl
      | none => exact ih unmarked

theorem readSegments_nil : readSegments rules [] [] = [] := by
  rw [readSegments]
  rfl

theorem readSlot?_nil (rules : List SlotRule) : readSlot? rules [] = none := by
  cases read : readSlot? rules [] with
  | none => rfl
  | some found => exact absurd (length_of_readSlot? read) (Nat.not_lt_zero _)

/-- A run of word characters ends before a separator. -/
theorem plainLength_append (other : isTemplateWordChar c = false) (d : Char)
    (before after : List Char) :
    plainLength d (before ++ c :: after) = plainLength d before := by
  have stops : (c :: after).takeWhile isTemplateWordChar = [] :=
    List.takeWhile_cons_of_neg (Bool.eq_false_iff.mp other)
  have same : (before ++ c :: after).takeWhile isTemplateWordChar =
      before.takeWhile isTemplateWordChar := by
    rw [List.takeWhile_append, stops, List.append_nil]
    split
    · rename_i whole
      rw [(List.takeWhile_sublist isTemplateWordChar).eq_of_length whole]
    · rfl
  rw [plainLength, plainLength, same]

theorem plainLength_le (d : Char) (text : List Char) : plainLength d text ≤ text.length + 1 := by
  unfold plainLength
  split
  · exact Nat.succ_le_succ (List.takeWhile_sublist isTemplateWordChar).length_le
  · omega

/-- **What is read piece by piece parts at a separator.** -/
theorem readSegments_append (separates : Separates rules c) (before after : List Char) :
    readSegments rules [] (before ++ c :: after) =
      readSegments rules [] before ++ .literal [c] :: readSegments rules [] after := by
  -- The induction is on what is left before the separator.
  induction size : before.length using Nat.strong_induction_on generalizing before with
  | _ count ih =>
      have slot := separates.readSlot?_append before after
      cases before with
      | nil =>
          rw [readSlot?_nil, Option.map_none, List.nil_append] at slot
          rw [List.nil_append, readSegments_nil, List.nil_append]
          exact readSegments_append_of_plain (.sign separates.other) slot
      | cons d before =>
          cases read : readSlot? rules (d :: before) with
          | some found =>
              obtain ⟨segment, rest⟩ := found
              have shorter : rest.length < count := size ▸ length_of_readSlot? read
              rw [read, Option.map_some, List.cons_append] at slot
              rw [List.cons_append, readSegments_of_slot slot, readSegments_of_slot read,
                readSegments_eq_append, ih _ shorter rest rfl,
                readSegments_eq_append [segment] rest, List.append_assoc]
          | none =>
              have within := plainLength_le d before
              have shorter : (before.drop (plainLength d before - 1)).length < count := by
                rw [List.length_cons] at size
                rw [List.length_drop]
                omega
              have taken : (d :: (before ++ c :: after)).take (plainLength d before) =
                  (d :: before).take (plainLength d before) := by
                rw [← List.cons_append, List.take_append_of_le_length]
                exact within
              have left : (before ++ c :: after).drop (plainLength d before - 1) =
                  before.drop (plainLength d before - 1) ++ c :: after := by
                rw [List.drop_append_of_le_length]
                omega
              rw [read, Option.map_none, List.cons_append] at slot
              rw [List.cons_append, readSegments_of_plain slot, readSegments_of_plain read,
                plainLength_append separates.other, taken, left, readSegments_eq_append,
                ih _ shorter _ rfl, readSegments_eq_append [_] (before.drop _), List.append_assoc]

end Separates

namespace Segment

variable {parts : List Segment}

/-- Joining plain text twice joins the texts together. -/
theorem join_literal_join (first second : List Char) (following : List Segment) :
    (literal first).join ((literal second).join following) =
      (literal (first ++ second)).join following := by
  cases following with
  | nil => rfl
  | cons next following =>
      cases next with
      | literal text => simp only [join, List.append_assoc]
      | slot kind token => rfl

theorem coalesced_cons (segment : Segment) (parts : List Segment) :
    coalesced (segment :: parts) = segment.join (coalesced parts) :=
  rfl

/-- Plain text that was joined before is joined on. -/
theorem coalesced_join_append (segment : Segment) (following parts : List Segment) :
    coalesced (segment.join following ++ parts) =
      segment.join (coalesced (following ++ parts)) := by
  unfold join
  split
  · rw [List.cons_append, List.cons_append, coalesced_cons, coalesced_cons, ← join_literal_join]
    rfl
  · rfl

/-- It changes nothing to coalesce the first of two parts beforehand. -/
theorem coalesced_append_left (first second : List Segment) :
    coalesced (coalesced first ++ second) = coalesced (first ++ second) := by
  induction first with
  | nil => rfl
  | cons segment first ih =>
      rw [coalesced_cons, coalesced_join_append, ih, List.cons_append, coalesced_cons]

/-- Coalescing twice changes nothing. -/
theorem coalesced_coalesced (parts : List Segment) :
    coalesced (coalesced parts) = coalesced parts := by
  have joined := coalesced_append_left parts []
  rwa [List.append_nil, List.append_nil] at joined

/-- It changes nothing to coalesce the second of two parts beforehand. -/
theorem coalesced_append_right (first second : List Segment) :
    coalesced (first ++ coalesced second) = coalesced (first ++ second) := by
  induction first with
  | nil => exact coalesced_coalesced second
  | cons segment first ih =>
      rw [List.cons_append, List.cons_append, coalesced_cons, coalesced_cons, ih]

/-- It changes nothing to coalesce what is behind a segment beforehand. -/
theorem coalesced_append_cons_right (first : List Segment) (segment : Segment)
    (second : List Segment) :
    coalesced (first ++ segment :: coalesced second) = coalesced (first ++ segment :: second) := by
  have joined := coalesced_append_right (first ++ [segment]) second
  rwa [List.append_assoc, List.append_assoc] at joined

end Segment

open Segment (coalesced)

section Slots

variable {parts : List Segment} {before token after : List Char} {kind : Slot}

/-- A slot among segments is the first of them, or one of the others. -/
theorem holdsSlot_cons_iff {segment : Segment} :
    HoldsSlot (segment :: parts) before kind token after ↔
      (segment = .slot kind token ∧ before = [] ∧ parts.flatMap Segment.written = after) ∨
        ∃ later, before = segment.written ++ later ∧ HoldsSlot parts later kind token after := by
  constructor
  · rintro ⟨front, back, split, rfl, rfl⟩
    cases front with
    | nil =>
        obtain ⟨rfl, rfl⟩ := List.cons.inj split
        exact .inl ⟨rfl, rfl, rfl⟩
    | cons first front =>
        obtain ⟨rfl, rfl⟩ := List.cons.inj split
        exact .inr ⟨_, List.flatMap_cons, front, back, rfl, rfl, rfl⟩
  · rintro (⟨rfl, rfl, rfl⟩ | ⟨later, rfl, held⟩)
    · exact ⟨[], parts, rfl, rfl, rfl⟩
    · exact held.cons segment

/-- Behind plain text, the slots are those of the other segments, moved by the text. -/
theorem holdsSlot_literal_cons_iff {text : List Char} :
    HoldsSlot (.literal text :: parts) before kind token after ↔
      ∃ later, before = text ++ later ∧ HoldsSlot parts later kind token after := by
  rw [holdsSlot_cons_iff]
  simp only [reduceCtorEq, false_and, false_or, Segment.written]

/-- Joining plain text moves no slot. -/
theorem holdsSlot_join_iff {segment : Segment} :
    HoldsSlot (segment.join parts) before kind token after ↔
      HoldsSlot (segment :: parts) before kind token after := by
  unfold Segment.join
  split
  · simp only [holdsSlot_literal_cons_iff, List.append_assoc]
    constructor
    · rintro ⟨later, rfl, held⟩
      exact ⟨_, rfl, later, rfl, held⟩
    · rintro ⟨_, rfl, later, rfl, held⟩
      exact ⟨later, rfl, held⟩
  · rfl

/-- Coalescing changes no character. -/
theorem flatMap_written_coalesced (parts : List Segment) :
    (coalesced parts).flatMap Segment.written = parts.flatMap Segment.written := by
  induction parts with
  | nil => rfl
  | cons segment parts ih =>
      rw [Segment.coalesced_cons, Segment.written_join, ih, List.flatMap_cons]

/-- Coalescing changes no slot. -/
theorem holdsSlot_coalesced_iff :
    HoldsSlot (coalesced parts) before kind token after ↔
      HoldsSlot parts before kind token after := by
  induction parts generalizing before with
  | nil => rfl
  | cons segment parts ih =>
      rw [Segment.coalesced_cons, holdsSlot_join_iff, holdsSlot_cons_iff, holdsSlot_cons_iff,
        flatMap_written_coalesced]
      simp only [ih]

/-- The slots of two parts are those of the first one and those of the second one. -/
theorem holdsSlot_append_iff {first second : List Segment} :
    HoldsSlot (first ++ second) before kind token after ↔
      (∃ inside, after = inside ++ second.flatMap Segment.written ∧
        HoldsSlot first before kind token inside) ∨
      ∃ later, before = first.flatMap Segment.written ++ later ∧
        HoldsSlot second later kind token after := by
  constructor
  · rintro ⟨front, back, split, rfl, rfl⟩
    rcases List.append_eq_append_iff.mp split with ⟨inner, rfl, rest⟩ | ⟨inner, rfl, rest⟩
    · exact .inr ⟨_, List.flatMap_append, inner, back, rest, rfl, rfl⟩
    · cases inner with
      | nil =>
          refine .inr ⟨[], ?_, [], back, rest.symm, rfl, rfl⟩
          rw [List.append_nil, List.append_nil]
      | cons slot inner =>
          obtain ⟨rfl, rfl⟩ := List.cons.inj rest
          exact .inl ⟨_, List.flatMap_append, front, inner, rfl, rfl, rfl⟩
  · rintro (⟨_, rfl, front, back, rfl, rfl, rfl⟩ | ⟨_, rfl, front, back, rfl, rfl, rfl⟩)
    · refine ⟨front, back ++ second, ?_, rfl, List.flatMap_append⟩
      rw [List.append_assoc, List.cons_append]
    · refine ⟨first ++ front, back, ?_, List.flatMap_append, rfl⟩
      rw [List.append_assoc]

end Slots

namespace Separates

variable {rules : List SlotRule} {c : Char}

/-- **The segments of a template part at a separator**, up to plain text that meets there. -/
theorem segments_append (separates : Separates rules c) (before after : List Char) :
    segments rules (before ++ c :: after) =
      coalesced (segments rules before ++ .literal [c] :: segments rules after) := by
  calc segments rules (before ++ c :: after)
    _ = coalesced (readSegments rules [] before ++ .literal [c] :: readSegments rules [] after) :=
        congrArg coalesced (separates.readSegments_append before after)
    _ = coalesced (segments rules before ++ .literal [c] :: readSegments rules [] after) :=
        (Segment.coalesced_append_left _ _).symm
    _ = coalesced (segments rules before ++ .literal [c] :: segments rules after) :=
        (Segment.coalesced_append_cons_right _ _ _).symm

/-- The segments of parts with separators between them are those of the parts with the separators,
coalesced. -/
theorem segments_intercalate (separates : Separates rules c) (parts : List (List Char)) :
    segments rules ([c].intercalate parts) =
      coalesced ([.literal [c]].intercalate (parts.map (segments rules))) := by
  induction parts with
  | nil => exact segments_nil
  | cons part parts ih =>
      cases parts with
      | nil =>
          rw [List.map_singleton, List.intercalate_singleton, List.intercalate_singleton]
          exact (Segment.coalesced_coalesced _).symm
      | cons next parts =>
          rw [List.map_cons, List.map_cons, List.intercalate_cons_cons,
            List.intercalate_cons_cons, ← List.map_cons, List.append_assoc, List.append_assoc,
            List.singleton_append, List.singleton_append, separates.segments_append, ih,
            Segment.coalesced_append_cons_right]

/-- A slot of a template stands on one side of a separator, and is a slot of that side. -/
theorem holdsSlot_segments_append_iff (separates : Separates rules c)
    (marked : ∀ rule ∈ rules, rule.token ≠ []) {before after lead token trail : List Char}
    {kind : Slot} :
    HoldsSlot (segments rules (before ++ c :: after)) lead kind token trail ↔
      (∃ inside, trail = inside ++ c :: after ∧
        HoldsSlot (segments rules before) lead kind token inside) ∨
      ∃ inside, lead = before ++ c :: inside ∧
        HoldsSlot (segments rules after) inside kind token trail := by
  have front := (segmentation_segments marked before).flatMap_written
  have back := (segmentation_segments marked after).flatMap_written
  rw [separates.segments_append, holdsSlot_coalesced_iff, holdsSlot_append_iff, front,
    List.flatMap_cons, back]
  simp only [holdsSlot_literal_cons_iff, Segment.written, List.singleton_append]
  constructor
  · rintro (first | ⟨_, rfl, inside, rfl, second⟩)
    · exact .inl first
    · exact .inr ⟨inside, rfl, second⟩
  · rintro (first | ⟨inside, rfl, second⟩)
    · exact .inl first
    · exact .inr ⟨_, rfl, inside, rfl, second⟩

end Separates

/-- **A template is read part by part between separators.** Let a character be part of no word and
of no marker. The segments of a template that holds it are those of the text before it, the
character itself and the segments of the text behind it, with neighbouring plain text joined, and
so for any number of parts between such characters. A slot stands within one of the parts, and it
is a slot there whatever the other parts are. -/
theorem segments_separated (rules : List SlotRule) (marked : ∀ rule ∈ rules, rule.token ≠ [])
    (c : Char) (separates : Separates rules c) :
    (∀ before after, segments rules (before ++ c :: after) =
      coalesced (segments rules before ++ .literal [c] :: segments rules after)) ∧
    (∀ parts, segments rules ([c].intercalate parts) =
      coalesced ([.literal [c]].intercalate (parts.map (segments rules)))) ∧
    ∀ before after lead kind token trail,
      HoldsSlot (segments rules (before ++ c :: after)) lead kind token trail ↔
        (∃ inside, trail = inside ++ c :: after ∧
          HoldsSlot (segments rules before) lead kind token inside) ∨
        ∃ inside, lead = before ++ c :: inside ∧
          HoldsSlot (segments rules after) inside kind token trail := by
  refine ⟨separates.segments_append, separates.segments_intercalate, ?_⟩
  intro before after lead kind token trail
  exact separates.holdsSlot_segments_append_iff marked

/-- A blank parts the templates of the standard rules, and plain text joins around it. -/
theorem segments_separated_blank :
    (∀ rule ∈ standardRules, rule.token ≠ []) ∧ Separates standardRules ' ' ∧
      segments standardRules ("do one's".toList ++ ' ' :: "best ~".toList) =
        [.literal "do ".toList, .slot .possessive "one's".toList, .literal " best ".toList,
          .slot .tilde "~".toList] := by
  have marked : ∀ rule ∈ standardRules, rule.token ≠ [] := by decide
  have separates : Separates standardRules ' ' := ⟨by decide, by decide⟩
  have first : segments standardRules "do one's".toList =
      [.literal "do ".toList, .slot .possessive "one's".toList] := by
    decide +kernel
  have second : segments standardRules "best ~".toList =
      [.literal "best ".toList, .slot .tilde "~".toList] := by
    decide +kernel
  refine ⟨marked, separates, ?_⟩
  rw [(segments_separated standardRules marked ' ' separates).1, first, second]
  rfl

end Locution
