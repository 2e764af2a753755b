import Locution.Proofs.Template.Scan

/-! # The one way to part a template

The segments of a template have a meaning apart from how they are read (`Segmentation`). Each slot
is the marker of the first rule that reads one at its place, no word is cut by a slot, plain text
stands in one piece, and no rule reads a marker at a place of it where slots are looked for. Reading
a template gives such segments (`segmentation_segments`), and there are no others
(`Segmentation.eq_segments`).
-/

namespace Locution

open Text

/-- Whether a place of plain text is one where slots are looked for: the beginning of the text, a
character of no word, or the first character of a word. -/
def IsScanPlace (before : List Char) (c : Char) : Prop :=
  before = [] ∨ isTemplateWordChar c = false ∨ before.getLast?.any isTemplateWordChar = false

/-- Whether plain text is a whole segment before others: it holds characters, the next segment is a
slot, none that cuts a word, and no rule reads a marker where slots are looked for. -/
structure IsPlainBefore (rules : List SlotRule) (text after : List Char)
    (following : List Segment) : Prop where
  filled : text ≠ []
  apart : ∀ next rest, following ≠ .literal next :: rest
  whole : ∀ kind token rest, following = .slot kind token :: rest →
    text.getLast?.any isTemplateWordChar = true → opensWithWord token = false
  unmarked : ∀ before c rest, text = before ++ c :: rest → IsScanPlace before c →
    ∀ rule ∈ rules, ¬ rule.Opens (c :: rest ++ after)

/-- The ways to part a template into slots and plain text: every slot is read by the first rule that
reads one at its place, and plain text holds no place where a slot would be read. -/
inductive Segmentation (rules : List SlotRule) : List Char → List Segment → Prop where
  | nil : Segmentation rules [] []
  | slot {kind : Slot} {token after : List Char} {following : List Segment}
      (first : ReadsFirst rules kind token after) (others : Segmentation rules after following) :
      Segmentation rules (token ++ after) (.slot kind token :: following)
  | plain {text after : List Char} {following : List Segment}
      (plain : IsPlainBefore rules text after following)
      (others : Segmentation rules after following) :
      Segmentation rules (text ++ after) (.literal text :: following)

namespace Segmentation

variable {rules : List SlotRule} {template : List Char} {parts : List Segment}

/-- The segments hold the template as it was written. -/
theorem flatMap_written (parted : Segmentation rules template parts) :
    parts.flatMap Segment.written = template := by
  induction parted with
  | nil => rfl
  | slot _ _ ih => rw [List.flatMap_cons, ih, Segment.written]
  | plain _ _ ih => rw [List.flatMap_cons, ih, Segment.written]

/-- The segments from one on part what is left of the template. -/
theorem of_append {front back : List Segment}
    (parted : Segmentation rules template (front ++ back)) :
    Segmentation rules (back.flatMap Segment.written) back := by
  induction front generalizing template with
  | nil =>
      rw [List.nil_append] at parted
      rwa [parted.flatMap_written]
  | cons segment front ih =>
      rw [List.cons_append] at parted
      cases parted with
      | slot _ others => exact ih others
      | plain _ others => exact ih others

/-- The first rule that reads a marker where a slot stands is the one that gave the slot. -/
theorem readsFirst {front following : List Segment} {kind : Slot} {token : List Char}
    (parted : Segmentation rules template (front ++ .slot kind token :: following)) :
    ReadsFirst rules kind token (following.flatMap Segment.written) := by
  have there := parted.of_append
  generalize (Segment.slot kind token :: following).flatMap Segment.written = rest at there
  cases there with
  | slot first others =>
      rw [others.flatMap_written]
      exact first

/-- In a segmentation each plain text stands as plain text before what follows it. -/
theorem isPlainBefore {front following : List Segment} {text : List Char}
    (parted : Segmentation rules template (front ++ .literal text :: following)) :
    IsPlainBefore rules text (following.flatMap Segment.written) following := by
  have there := parted.of_append
  generalize (Segment.literal text :: following).flatMap Segment.written = rest at there
  cases there with
  | plain plain others =>
      rw [others.flatMap_written]
      exact plain

/-- Behind plain text that ends in a word the word does not go on. -/
theorem opensWithWord_after (filled : ∀ rule ∈ rules, rule.token ≠ []) {text after : List Char}
    {following : List Segment} (plain : IsPlainBefore rules text after following)
    (others : Segmentation rules after following)
    (word : text.getLast?.any isTemplateWordChar = true) : opensWithWord after = false := by
  cases others with
  | nil => rfl
  | @slot kind token after following first _ =>
      have ends := plain.whole kind token following rfl word
      cases token with
      | nil => exact absurd rfl (first.ne_nil filled)
      | cons c token => exact ends
  | plain => exact absurd rfl (plain.apart _ _)

end Segmentation

namespace IsPlainPiece

variable {run rest : List Char}

/-- Only at its beginning a slot is looked for in it. -/
theorem eq_nil_of_isScanPlace (piece : IsPlainPiece run rest) {before later : List Char} {c : Char}
    (split : run = before ++ c :: later) (place : IsScanPlace before c) : before = [] := by
  cases piece with
  | sign =>
      cases before with
      | nil => rfl
      | cons d before =>
          have nothing := (List.cons.inj split).2
          exact absurd nothing.symm (by simp)
  | word _ word =>
      rcases place with empty | other | ended
      · exact empty
      · rw [word c (by simp [split])] at other
        cases other
      · rcases List.eq_nil_or_concat before with empty | ⟨init, d, rfl⟩
        · exact empty
        · have inside : d ∈ run := by simp [split]
          rw [List.concat_eq_append, List.getLast?_concat, Option.any_some, word d inside] at ended
          cases ended

end IsPlainPiece

section Scan

variable {rules : List SlotRule}

/-- Plain text before anything but plain text is not joined. -/
theorem Segment.join_of_apart {text : List Char} {following : List Segment}
    (apart : ∀ next rest, following ≠ .literal next :: rest) :
    (Segment.literal text).join following = .literal text :: following := by
  unfold join
  split
  · rename_i same
    exact absurd rfl (apart _ _)
  · rfl

/-- A place behind a piece of plain text is one where slots are looked for, if it is one by what
stands behind the piece. -/
theorem IsPlainPiece.isScanPlace {run before rest : List Char} {c : Char}
    (piece : IsPlainPiece run (before ++ c :: rest)) (place : IsScanPlace before c) :
    IsScanPlace (run ++ before) c := by
  rcases List.eq_nil_or_concat before with rfl | ⟨init, d, rfl⟩
  · rw [List.append_nil]
    cases piece with
    | sign other => exact .inr (.inr other)
    | word _ _ ended => exact .inr (.inl ended)
  · rcases place with empty | other | ended
    · simp at empty
    · exact .inr (.inl other)
    · refine .inr (.inr ?_)
      rwa [List.concat_eq_append, ← List.append_assoc, List.getLast?_concat] at *

/-- A place where slots are looked for is still one when characters in front are left out. -/
theorem isScanPlace_of_append {run before : List Char} {c : Char}
    (place : IsScanPlace (run ++ before) c) : IsScanPlace before c := by
  rcases List.eq_nil_or_concat before with rfl | ⟨init, d, rfl⟩
  · exact .inl rfl
  · rcases place with empty | other | ended
    · simp at empty
    · exact .inr (.inl other)
    · refine .inr (.inr ?_)
      rw [List.concat_eq_append, ← List.append_assoc, List.getLast?_concat] at ended
      rwa [List.concat_eq_append, List.getLast?_concat]

namespace IsPlainBefore

variable {run text after : List Char} {following : List Segment}

/-- Plain text without its first piece is plain text still. -/
theorem of_append (plain : IsPlainBefore rules (run ++ text) after following)
    (piece : IsPlainPiece run (text ++ after)) (filled : text ≠ []) :
    IsPlainBefore rules text after following where
  filled := filled
  apart := plain.apart
  whole kind token rest same word := by
    apply plain.whole kind token rest same
    rwa [List.getLast?_append_of_ne_nil _ filled]
  unmarked before c rest split place := by
    rw [split, List.append_assoc, List.cons_append] at piece
    exact plain.unmarked (run ++ before) c rest (by rw [split, List.append_assoc])
      (piece.isScanPlace place)

/-- A piece where no rule reads a marker is plain text before a slot. -/
theorem of_piece (piece : IsPlainPiece run after)
    (unopened : ∀ rule ∈ rules, ¬ rule.Opens (run ++ after))
    (parted : Segmentation rules after following)
    (apart : ∀ next rest, following ≠ .literal next :: rest) :
    IsPlainBefore rules run after following where
  filled := piece.ne_nil
  apart := apart
  whole kind token rest same word := by
    have ended := piece.opensWithWord_eq_false word
    rw [← parted.flatMap_written, same, List.flatMap_cons, Segment.written] at ended
    cases token with
    | nil => rfl
    | cons c token => exact ended
  unmarked before c rest split place := by
    obtain rfl := piece.eq_nil_of_isScanPlace split place
    rwa [split] at unopened

/-- A piece where no rule reads a marker joins the plain text behind it. -/
theorem append (plain : IsPlainBefore rules text after following)
    (piece : IsPlainPiece run (text ++ after))
    (unopened : ∀ rule ∈ rules, ¬ rule.Opens (run ++ (text ++ after))) :
    IsPlainBefore rules (run ++ text) after following where
  filled := fun empty => piece.ne_nil (List.append_eq_nil_iff.mp empty).1
  apart := plain.apart
  whole kind token rest same word := by
    apply plain.whole kind token rest same
    rwa [List.getLast?_append_of_ne_nil _ plain.filled] at word
  unmarked before c rest split place := by
    rcases List.append_eq_append_iff.mp split with ⟨inner, rfl, inside⟩ | ⟨inner, runEq, inside⟩
    · exact plain.unmarked inner c rest inside (isScanPlace_of_append place)
    · cases inner with
      | nil =>
          rw [List.append_nil] at runEq
          subst runEq
          exact plain.unmarked [] c rest inside.symm (.inl rfl)
      | cons d inner =>
          obtain ⟨rfl, rfl⟩ := List.cons.inj inside
          obtain rfl := piece.eq_nil_of_isScanPlace runEq place
          rw [runEq] at unopened
          simpa using unopened

end IsPlainBefore

/-- Plain text is read as one segment, piece by piece. -/
theorem segments_append_of_isPlainBefore (marked : ∀ rule ∈ rules, rule.token ≠ [])
    {text after : List Char} {following : List Segment}
    (plain : IsPlainBefore rules text after following)
    (parted : Segmentation rules after following) (read : segments rules after = following) :
    segments rules (text ++ after) = .literal text :: following := by
  induction size : text.length using Nat.strong_induction_on generalizing text with
  | _ count ih =>
      obtain ⟨run, left, rfl, piece⟩ :=
        exists_isPlainPiece plain.filled (parted.opensWithWord_after marked plain)
      have unread : readSlot? rules (run ++ (left ++ after)) = none := by
        refine (readSlot?_eq_none_iff marked).mpr ?_
        obtain ⟨c, run, rfl⟩ := List.exists_cons_of_ne_nil piece.ne_nil
        have unopened := plain.unmarked [] c (run ++ left) rfl (.inl rfl)
        simpa only [List.cons_append, List.append_assoc] using unopened
      rw [List.append_assoc, segments_append_of_plain piece unread]
      by_cases filled : left = []
      · subst filled
        rw [List.nil_append, read, List.append_nil]
        exact Segment.join_of_apart plain.apart
      · have shorter : left.length < count := by
          have positive := List.length_pos_of_ne_nil piece.ne_nil
          rw [List.length_append] at size
          omega
        rw [ih _ shorter (plain.of_append piece filled) rfl]
        rfl

/-- Every segmentation of a template is the one that is read. -/
theorem Segmentation.eq_segments (marked : ∀ rule ∈ rules, rule.token ≠ [])
    {template : List Char} {parts : List Segment} (parted : Segmentation rules template parts) :
    parts = segments rules template := by
  induction parted with
  | nil => exact segments_nil.symm
  | @slot kind token after following first _ ih =>
      have read : readSlot? rules (token ++ after) = some (.slot kind token, after) :=
        (readSlot?_eq_some_iff marked).mpr ⟨kind, token, rfl, rfl, first⟩
      rw [segments_append_of_slot (first.ne_nil marked) read, ih]
  | plain plain others ih =>
      exact (segments_append_of_isPlainBefore marked plain others ih.symm).symm

/-- The segments that are read are a segmentation of the template. -/
theorem segmentation_segments (marked : ∀ rule ∈ rules, rule.token ≠ []) (template : List Char) :
    Segmentation rules template (segments rules template) := by
  induction size : template.length using Nat.strong_induction_on generalizing template with
  | _ count ih =>
      by_cases empty : template = []
      · subst empty
        rw [segments_nil]
        exact .nil
      · cases read : readSlot? rules template with
        | some found =>
            obtain ⟨segment, rest⟩ := found
            have shorter : rest.length < count := size ▸ length_of_readSlot? read
            obtain ⟨kind, token, rfl, rfl, first⟩ := (readSlot?_eq_some_iff marked).mp read
            rw [segments_append_of_slot (first.ne_nil marked) read]
            exact .slot first (ih _ shorter _ rfl)
        | none =>
            obtain ⟨run, rest, rfl, piece⟩ := @exists_isPlainPiece _ [] empty fun _ => rfl
            rw [List.append_nil] at piece
            have unopened := (readSlot?_eq_none_iff marked).mp read
            have shorter : rest.length < count := by
              have positive := List.length_pos_of_ne_nil piece.ne_nil
              rw [List.length_append] at size
              omega
            have parted := ih _ shorter rest rfl
            rw [segments_append_of_plain piece read]
            generalize segments rules rest = following at parted
            cases parted with
            | nil => exact .plain (.of_piece piece unopened .nil fun _ _ => nofun) .nil
            | slot first others =>
                have behind := Segmentation.slot first others
                exact .plain (.of_piece piece unopened behind fun _ _ => nofun) behind
            | @plain text after following plain others =>
                have joined := Segmentation.plain (plain.append piece unopened) others
                rwa [List.append_assoc] at joined

end Scan

/-- **A template has exactly one segmentation, and it is the one that is read.** Under a table of
rules without empty markers every step of the reading finds a part of the template, up to its end.
The parts, with neighbouring plain text joined, are the only way to part the template such that
every slot is the marker of the first rule that reads one at its place, no slot cuts a word, no
plain text is empty or stands next to other plain text, and no rule reads a marker at a place of
plain text where slots are looked for. -/
theorem segmentation_iff_eq_segments (rules : List SlotRule)
    (marked : ∀ rule ∈ rules, rule.token ≠ []) (template : List Char) :
    ReadsThrough rules template (readSegments rules [] template) ∧
      ∀ parts, Segmentation rules template parts ↔ parts = segments rules template := by
  refine ⟨readsThrough_readSegments marked template, fun parts => ?_⟩
  constructor
  · exact Segmentation.eq_segments marked
  · rintro rfl
    exact segmentation_segments marked template

/-- A possessive slot between words, and one that the word behind it keeps from being a slot. -/
theorem segmentation_iff_eq_segments_possessive :
    (∀ rule ∈ standardRules, rule.token ≠ []) ∧
      Segmentation standardRules "do One's one'sy~".toList
        [.literal "do ".toList, .slot .possessive "One's".toList, .literal " one'sy".toList,
          .slot .tilde "~".toList] := by
  have marked : ∀ rule ∈ standardRules, rule.token ≠ [] := by decide
  have read : segments standardRules "do One's one'sy~".toList =
      [.literal "do ".toList, .slot .possessive "One's".toList, .literal " one'sy".toList,
        .slot .tilde "~".toList] := by
    decide +kernel
  exact ⟨marked, ((segmentation_iff_eq_segments standardRules marked _).2 _).mpr read.symm⟩

end Locution
