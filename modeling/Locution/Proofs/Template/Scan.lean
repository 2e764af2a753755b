import Locution.Proofs.Text.LetterCase
import Locution.Template.Segment

/-! # Reading a template part by part

A rule reads its marker where the marker stands, up to the case of ASCII letters
(`SlotRule.read?_eq_some_iff`), and the first such rule of a table decides
(`readSlot?_eq_some_iff`). Where no rule reads one, a piece of plain text is taken
(`readSegments_append_of_plain`). One of the two always happens, so a template is read to its end
(`readsThrough_readSegments`).
-/

namespace Locution

open Text

namespace SlotRule

/-- Whether a rule reads a token as its marker before the text that follows. -/
def Reads (rule : SlotRule) (token after : List Char) : Prop :=
  SameLetters rule.token token ∧ (rule.wholeWord = true → opensWithWord after = false)

/-- Whether a rule reads a marker at the beginning of a text. -/
def Opens (rule : SlotRule) (text : List Char) : Prop :=
  ∃ token after, text = token ++ after ∧ rule.Reads token after

variable {rule : SlotRule} {text token rest : List Char} {segment : Segment}

theorem Reads.length_eq (reads : rule.Reads token rest) : rule.token.length = token.length :=
  List.Forall₂.length_eq reads.1

theorem Reads.ne_nil (filled : rule.token ≠ []) (reads : rule.Reads token rest) : token ≠ [] := by
  rintro rfl
  exact filled (List.length_eq_zero_iff.mp reads.length_eq)

/-- A rule reads its marker where it stands, and leaves what is behind it. -/
theorem read?_eq_some_iff (filled : rule.token ≠ []) :
    rule.read? text = some (segment, rest) ↔
      ∃ token, segment = .slot rule.slot token ∧ text = token ++ rest ∧ rule.Reads token rest := by
  have marked : rule.token.isEmpty = false := by
    rwa [Bool.eq_false_iff, ne_eq, List.isEmpty_iff]
  simp only [read?, rest?, marked, Bool.false_eq_true, ↓reduceIte, Option.map_eq_some_iff,
    Option.filter_eq_some_iff, dropLead_eq_some_iff, Prod.mk.injEq]
  constructor
  · rintro ⟨left, ⟨⟨token, same, rfl⟩, ends⟩, rfl, rfl⟩
    refine ⟨token, ?_, rfl, same, fun whole => ?_⟩
    · rw [List.Forall₂.length_eq same, List.take_left]
    · simpa only [whole, Bool.true_and, Bool.not_eq_true'] using ends
  · rintro ⟨token, rfl, rfl, same, ends⟩
    refine ⟨rest, ⟨⟨token, same, rfl⟩, ?_⟩, ?_, rfl⟩
    · cases whole : rule.wholeWord with
      | false => rfl
      | true => rw [ends whole, Bool.and_false, Bool.not_false]
    · rw [List.Forall₂.length_eq same, List.take_left]

/-- A rule reads nothing where its marker does not open the text. -/
theorem read?_eq_none_iff (filled : rule.token ≠ []) :
    rule.read? text = none ↔ ¬ rule.Opens text := by
  rw [Option.eq_none_iff_forall_not_mem, Opens]
  constructor
  · rintro nothing ⟨token, after, split, reads⟩
    exact nothing _ ((read?_eq_some_iff filled).mpr ⟨token, rfl, split, reads⟩)
  · rintro nothing ⟨segment, rest⟩ read
    obtain ⟨token, _, split, reads⟩ := (read?_eq_some_iff filled).mp read
    exact nothing ⟨token, rest, split, reads⟩

end SlotRule

/-- Whether the first rule of a table that reads a marker at the beginning of a text reads the given
token there, as a slot of the given kind. -/
def ReadsFirst (rules : List SlotRule) (kind : Slot) (token after : List Char) : Prop :=
  ∃ earlier rule later, rules = earlier ++ rule :: later ∧ rule.slot = kind ∧
    rule.Reads token after ∧ ∀ other ∈ earlier, ¬ other.Opens (token ++ after)

section Reading

variable {rules : List SlotRule} {text token rest after : List Char} {kind : Slot}
  {segment : Segment}

/-- What is read first is read by one of the rules. -/
theorem ReadsFirst.exists_rule (first : ReadsFirst rules kind token after) :
    ∃ rule ∈ rules, rule.slot = kind ∧ rule.Reads token after := by
  obtain ⟨earlier, rule, later, rfl, slot, reads, _⟩ := first
  exact ⟨rule, List.mem_append_right _ List.mem_cons_self, slot, reads⟩

theorem ReadsFirst.ne_nil (filled : ∀ rule ∈ rules, rule.token ≠ [])
    (first : ReadsFirst rules kind token after) : token ≠ [] := by
  obtain ⟨rule, listed, _, reads⟩ := first.exists_rule
  exact reads.ne_nil (filled rule listed)

/-- The slot that is read is that of the first rule with a marker there. -/
theorem readSlot?_eq_some_iff (filled : ∀ rule ∈ rules, rule.token ≠ []) :
    readSlot? rules text = some (segment, rest) ↔
      ∃ kind token, segment = .slot kind token ∧ text = token ++ rest ∧
        ReadsFirst rules kind token rest := by
  rw [readSlot?, List.findSome?_eq_some_iff]
  constructor
  · rintro ⟨earlier, rule, later, rfl, read, missed⟩
    have marked := filled rule (List.mem_append_right _ List.mem_cons_self)
    obtain ⟨token, rfl, rfl, reads⟩ := (SlotRule.read?_eq_some_iff marked).mp read
    refine ⟨rule.slot, token, rfl, rfl, earlier, rule, later, rfl, rfl, reads, ?_⟩
    intro other before
    exact (SlotRule.read?_eq_none_iff (filled other (List.mem_append_left _ before))).mp
      (missed other before)
  · rintro ⟨kind, token, rfl, rfl, earlier, rule, later, rfl, rfl, reads, missed⟩
    have marked := filled rule (List.mem_append_right _ List.mem_cons_self)
    refine ⟨earlier, rule, later, rfl, ?_, ?_⟩
    · exact (SlotRule.read?_eq_some_iff marked).mpr ⟨token, rfl, rfl, reads⟩
    · intro other before
      exact (SlotRule.read?_eq_none_iff (filled other (List.mem_append_left _ before))).mpr
        (missed other before)

/-- No slot is read where no marker stands. -/
theorem readSlot?_eq_none_iff (filled : ∀ rule ∈ rules, rule.token ≠ []) :
    readSlot? rules text = none ↔ ∀ rule ∈ rules, ¬ rule.Opens text := by
  rw [readSlot?, List.findSome?_eq_none_iff]
  exact forall₂_congr fun rule listed => SlotRule.read?_eq_none_iff (filled rule listed)

end Reading

/-- What is taken at once as plain text before the rest of a template: a character of no word, or a
whole run of word characters. -/
inductive IsPlainPiece : List Char → List Char → Prop where
  | sign {c : Char} {rest : List Char} (other : isTemplateWordChar c = false) :
      IsPlainPiece [c] rest
  | word {run rest : List Char} (filled : run ≠ [])
      (word : ∀ c ∈ run, isTemplateWordChar c = true) (ended : opensWithWord rest = false) :
      IsPlainPiece run rest

theorem opensWithWord_map_toLower (text : List Char) :
    opensWithWord (text.map Char.toLower) = opensWithWord text := by
  cases text with
  | nil => rfl
  | cons c text => exact isTemplateWordChar_toLower c

/-- A text that begins with no word has no run of word characters in front. -/
theorem takeWhile_dropWhile_of_ended {text : List Char} (ended : opensWithWord text = false) :
    text.takeWhile isTemplateWordChar = [] ∧ text.dropWhile isTemplateWordChar = text := by
  cases text with
  | nil => exact ⟨rfl, rfl⟩
  | cons c text =>
      have other := Bool.eq_false_iff.mp ended
      exact ⟨List.takeWhile_cons_of_neg other, List.dropWhile_cons_of_neg other⟩

/-- Behind a run of word characters no word goes on. -/
theorem opensWithWord_dropWhile (text : List Char) :
    opensWithWord (text.dropWhile isTemplateWordChar) = false := by
  cases left : text.dropWhile isTemplateWordChar with
  | nil => rfl
  | cons c rest =>
      have stopped := List.head?_dropWhile_not isTemplateWordChar text
      rwa [left] at stopped

namespace IsPlainPiece

variable {run rest : List Char}

theorem ne_nil (piece : IsPlainPiece run rest) : run ≠ [] := by
  cases piece with
  | sign => exact List.cons_ne_nil _ _
  | word filled => exact filled

/-- A run at the end of plain text is followed by no word. -/
theorem opensWithWord_eq_false (piece : IsPlainPiece run rest)
    (word : run.getLast?.any isTemplateWordChar = true) : opensWithWord rest = false := by
  cases piece with
  | sign other =>
      rw [List.getLast?_singleton, Option.any_some, other] at word
      cases word
  | word _ _ ended => exact ended

end IsPlainPiece

section Scan

variable {rules : List SlotRule}

/-- What is read after other segments does not depend on them. -/
theorem readSegments_eq_append (done : List Segment) (template : List Char) :
    readSegments rules done template = done.reverse ++ readSegments rules [] template := by
  induction size : template.length using Nat.strong_induction_on generalizing done template with
  | _ count ih =>
      cases template with
      | nil => rw [readSegments, readSegments, List.reverse_nil, List.append_nil]
      | cons c template =>
          cases read : readSlot? rules (c :: template) with
          | some found =>
              obtain ⟨segment, rest⟩ := found
              have shorter : rest.length < count := size ▸ length_of_readSlot? read
              rw [readSegments_of_slot read, readSegments_of_slot read, ih _ shorter _ rest rfl,
                ih _ shorter [segment] rest rfl, List.reverse_cons, List.append_assoc,
                List.reverse_singleton]
          | none =>
              have shorter : (template.drop (plainLength c template - 1)).length < count := by
                rw [List.length_cons] at size
                rw [List.length_drop]
                omega
              rw [readSegments_of_plain read, readSegments_of_plain read, ih _ shorter _ _ rfl,
                ih _ shorter [_] _ rfl, List.reverse_cons, List.append_assoc,
                List.reverse_singleton]

theorem segments_nil : segments rules [] = [] := by
  rw [segments, readSegments]
  rfl

/-- Only an empty template has no segments. -/
theorem segments_eq_nil_iff {template : List Char} :
    segments rules template = [] ↔ template = [] := by
  have kept (segment : Segment) (following : List Segment) : segment.join following ≠ [] := by
    unfold Segment.join
    split <;> exact List.cons_ne_nil _ _
  constructor
  · intro nothing
    cases template with
    | nil => rfl
    | cons c template =>
        exfalso
        cases read : readSlot? rules (c :: template) with
        | some found =>
            rw [segments, readSegments_of_slot read, readSegments_eq_append] at nothing
            exact kept _ _ nothing
        | none =>
            rw [segments, readSegments_of_plain read, readSegments_eq_append] at nothing
            exact kept _ _ nothing
  · rintro rfl
    exact segments_nil

/-- A slot at the beginning of a template is read first. -/
theorem readSegments_append_of_slot {kind : Slot} {token rest : List Char} (filled : token ≠ [])
    (read : readSlot? rules (token ++ rest) = some (.slot kind token, rest)) :
    readSegments rules [] (token ++ rest) = .slot kind token :: readSegments rules [] rest := by
  obtain ⟨c, token, rfl⟩ := List.exists_cons_of_ne_nil filled
  rw [List.cons_append] at read ⊢
  rw [readSegments_of_slot read, readSegments_eq_append]
  rfl

/-- A slot at the beginning of a template is its first segment. -/
theorem segments_append_of_slot {kind : Slot} {token rest : List Char} (filled : token ≠ [])
    (read : readSlot? rules (token ++ rest) = some (.slot kind token, rest)) :
    segments rules (token ++ rest) = .slot kind token :: segments rules rest := by
  rw [segments, readSegments_append_of_slot filled read]
  rfl

/-- As many characters are taken as plain text as the piece has. -/
theorem IsPlainPiece.plainLength_eq {c : Char} {run rest : List Char}
    (piece : IsPlainPiece (c :: run) rest) : plainLength c (run ++ rest) = run.length + 1 := by
  cases piece with
  | sign other => rw [plainLength, if_neg (Bool.eq_false_iff.mp other), List.length_nil]
  | word _ word ended =>
      obtain ⟨first, others⟩ := List.forall_mem_cons.mp word
      rw [plainLength, if_pos first, List.takeWhile_append_of_pos others,
        (takeWhile_dropWhile_of_ended ended).1, List.append_nil]

/-- A piece of plain text at the beginning of a template is read first where no slot is. -/
theorem readSegments_append_of_plain {run rest : List Char} (piece : IsPlainPiece run rest)
    (plain : readSlot? rules (run ++ rest) = none) :
    readSegments rules [] (run ++ rest) = .literal run :: readSegments rules [] rest := by
  obtain ⟨c, run, rfl⟩ := List.exists_cons_of_ne_nil piece.ne_nil
  have taken : (c :: (run ++ rest)).take (run.length + 1) = c :: run := by
    rw [List.take_succ_cons, List.take_left]
  rw [List.cons_append] at plain ⊢
  rw [readSegments_of_plain plain, piece.plainLength_eq, taken, Nat.add_sub_cancel,
    List.drop_left, readSegments_eq_append]
  rfl

/-- A piece of plain text at the beginning of a template joins the segments behind it. -/
theorem segments_append_of_plain {run rest : List Char} (piece : IsPlainPiece run rest)
    (plain : readSlot? rules (run ++ rest) = none) :
    segments rules (run ++ rest) = (Segment.literal run).join (segments rules rest) := by
  rw [segments, readSegments_append_of_plain piece plain]
  rfl

/-- Plain text begins with a piece, if the word at its end does not go on behind it. -/
theorem exists_isPlainPiece {text after : List Char} (filled : text ≠ [])
    (ended : text.getLast?.any isTemplateWordChar = true → opensWithWord after = false) :
    ∃ run left, text = run ++ left ∧ IsPlainPiece run (left ++ after) := by
  obtain ⟨c, text, rfl⟩ := List.exists_cons_of_ne_nil filled
  cases word : isTemplateWordChar c with
  | false => exact ⟨[c], text, rfl, .sign word⟩
  | true =>
      have run : ((c :: text).takeWhile isTemplateWordChar) ≠ [] := by
        rw [List.takeWhile_cons_of_pos word]
        exact List.cons_ne_nil _ _
      refine ⟨_, _, List.takeWhile_append_dropWhile.symm,
        .word run (fun d inside => List.mem_takeWhile_imp inside) ?_⟩
      cases left : (c :: text).dropWhile isTemplateWordChar with
      | nil =>
          apply ended
          have all := List.dropWhile_eq_nil_iff.mp left
          rw [List.getLast?_eq_some_getLast filled, Option.any_some]
          exact all _ (List.getLast_mem filled)
      | cons d rest =>
          have stopped := opensWithWord_dropWhile (c :: text)
          rwa [left] at stopped

/-- The run of word characters at the beginning of a text, and what is left. -/
def readWord? (text : List Char) : Option (List Char × List Char) :=
  if opensWithWord text then
    some (text.takeWhile isTemplateWordChar, text.dropWhile isTemplateWordChar)
  else none

/-- The character at the beginning of a text, and what is left. -/
def readChar? : List Char → Option (List Char × List Char)
  | [] => none
  | c :: rest => some ([c], rest)

/-- The part of a template that is read in one step, and what is left: a slot, or else a run of word
characters, or else a single character. -/
def readPart? (rules : List SlotRule) (template : List Char) : Option (Segment × List Char) :=
  readSlot? rules template <|>
    (readWord? template <|> readChar? template).map fun (taken, rest) => (.literal taken, rest)

/-- A template that is read to its end, one part in each step. -/
inductive ReadsThrough (rules : List SlotRule) : List Char → List Segment → Prop where
  | nil : ReadsThrough rules [] []
  | cons {template rest : List Char} {segment : Segment} {parts : List Segment}
      (read : readPart? rules template = some (segment, rest))
      (others : ReadsThrough rules rest parts) : ReadsThrough rules template (segment :: parts)

/-- Where no rule applies, a piece of plain text is the next part. -/
theorem readPart?_of_plain {run rest : List Char} (piece : IsPlainPiece run rest)
    (plain : readSlot? rules (run ++ rest) = none) :
    readPart? rules (run ++ rest) = some (.literal run, rest) := by
  rw [readPart?, plain]
  cases piece with
  | @sign c rest other =>
      have wordless : readWord? ([c] ++ rest) = none := if_neg (Bool.eq_false_iff.mp other)
      rw [wordless]
      rfl
  | word filled word ended =>
      have opens : opensWithWord (run ++ rest) = true := by
        obtain ⟨c, run, rfl⟩ := List.exists_cons_of_ne_nil filled
        exact word c List.mem_cons_self
      have stops := takeWhile_dropWhile_of_ended ended
      rw [readWord?, if_pos opens, List.takeWhile_append_of_pos word,
        List.dropWhile_append_of_pos word, stops.1, stops.2, List.append_nil]
      rfl

/-- Every step of reading a template finds a part, until nothing is left. -/
theorem readsThrough_readSegments (marked : ∀ rule ∈ rules, rule.token ≠ [])
    (template : List Char) : ReadsThrough rules template (readSegments rules [] template) := by
  induction size : template.length using Nat.strong_induction_on generalizing template with
  | _ count ih =>
      by_cases empty : template = []
      · subst empty
        rw [readSegments]
        exact .nil
      · cases read : readSlot? rules template with
        | some found =>
            obtain ⟨segment, rest⟩ := found
            have shorter : rest.length < count := size ▸ length_of_readSlot? read
            have step : readPart? rules template = some (segment, rest) := by
              rw [readPart?, read]
              rfl
            obtain ⟨kind, token, rfl, rfl, first⟩ := (readSlot?_eq_some_iff marked).mp read
            rw [readSegments_append_of_slot (first.ne_nil marked) read]
            exact .cons step (ih _ shorter _ rfl)
        | none =>
            obtain ⟨run, rest, rfl, piece⟩ := @exists_isPlainPiece _ [] empty fun _ => rfl
            rw [List.append_nil] at piece
            have shorter : rest.length < count := by
              have positive := List.length_pos_of_ne_nil piece.ne_nil
              rw [List.length_append] at size
              omega
            rw [readSegments_append_of_plain piece read]
            exact .cons (readPart?_of_plain piece read) (ih _ shorter _ rfl)

end Scan

end Locution
