import Mathlib.Data.List.Destutter
import Locution.Proofs.Pattern.Reader
import Locution.Proofs.Template.Realization
import Locution.Span

/-! # The printed form of an idiom

The pattern of an expression is printed segment by segment: plain text character by character, and
every slot as a fragment, without the wildcards that stand directly after another wildcard
(`piecesAfter_eq_closingPieces_firstWildcards`). Plain text stands in one segment
(`spaced_segments`), so the printed form comes apart in one way only and tells the pattern
(`Idiom.blocks_printed_iff`): the search does what the printed form says
(`Idiom.find_eq_of_printed`).
-/

namespace Locution

namespace Segment

/-- Whether a segment is a slot. -/
def isSlot : Segment → Bool
  | .literal _ => false
  | .slot _ _ => true

/-- The piece of a segment captures when the segment is a slot. -/
theorem captures_piece (segment : Segment) (closing : Bool) :
    (segment.piece closing).captures = segment.isSlot := by
  cases segment with
  | literal => rfl
  | slot kind => cases kind <;> cases closing <;> rfl

theorem isWildcard_eq_false {segment : Segment} (plain : segment.isSlot = false) :
    segment.isWildcard = false := by
  cases segment with
  | literal => rfl
  | slot => cases plain

/-- Only a wildcard is a different piece at the end. -/
theorem piece_eq_of_not_wildcard {segment : Segment} (other : segment.isWildcard = false)
    (closing ending : Bool) : segment.piece closing = segment.piece ending := by
  cases segment with
  | literal => rfl
  | slot kind => cases kind <;> first | rfl | cases other

/-- Only at the end of a template a slot runs to the end of a clause. -/
theorem piece_false_ne_clause (segment : Segment) : segment.piece false ≠ .clause := by
  cases segment with
  | literal => exact Piece.noConfusion
  | slot kind => cases kind <;> exact Piece.noConfusion

/-- Whether two segments are not both wildcards. -/
def Apart (segment next : Segment) : Prop :=
  (segment.isWildcard && next.isWildcard) = false

instance : DecidableRel Apart := fun segment next =>
  inferInstanceAs (Decidable ((segment.isWildcard && next.isWildcard) = false))

end Segment

/-- Segments without the wildcards that stand directly after another wildcard. -/
def firstWildcards (parts : List Segment) : List Segment :=
  parts.destutter Segment.Apart

/-- A segment that is no further wildcard of a run has a piece of its own. -/
theorem piecesAfter_cons {afterWildcard : Bool} {next : Segment}
    (apart : (afterWildcard && next.isWildcard) = false) (rest : List Segment) :
    piecesAfter afterWildcard (next :: rest) =
      next.piece (rest.all Segment.isWildcard) :: piecesAfter next.isWildcard rest := by
  cases next with
  | literal => rfl
  | slot kind token =>
      rw [Bool.and_comm] at apart
      exact if_neg (Bool.eq_false_iff.mp apart)

/-- A wildcard after a wildcard adds no piece. -/
theorem piecesAfter_cons_of_wildcard {next : Segment} (wild : next.isWildcard = true)
    (rest : List Segment) : piecesAfter true (next :: rest) = piecesAfter true rest := by
  cases next with
  | literal => cases wild
  | slot kind token => exact if_pos ((Bool.and_true _).trans wild)

theorem isEmpty_destutter' (segment : Segment) (rest : List Segment) :
    (rest.destutter' Segment.Apart segment).isEmpty = false :=
  List.isEmpty_eq_false_iff.mpr (List.destutter'_ne_nil _ _)

/-- The pieces for a segment and those after it. -/
theorem closingPieces_destutter' (segment : Segment) (rest : List Segment) :
    closingPieces (rest.destutter' Segment.Apart segment) =
      segment.piece (rest.all Segment.isWildcard) :: piecesAfter segment.isWildcard rest := by
  induction rest generalizing segment with
  | nil => rfl
  | cons next rest ih =>
      cases repeated : segment.isWildcard && next.isWildcard with
      | true =>
          obtain ⟨wild, nextWild⟩ := Bool.and_eq_true_iff.mp repeated
          have together : ¬ segment.Apart next := fun apart =>
            Bool.false_ne_true (apart.symm.trans repeated)
          rw [List.destutter'_cons_neg _ together, ih, List.all_cons, nextWild, Bool.true_and, wild,
            piecesAfter_cons_of_wildcard nextWild]
      | false =>
          have apart : segment.Apart next := repeated
          rw [List.destutter'_cons_pos _ apart, closingPieces, isEmpty_destutter', ih,
            piecesAfter_cons repeated]
          congr 1
          -- a wildcard before other segments is not the last one
          cases wild : segment.isWildcard with
          | true =>
              rw [wild, Bool.true_and] at repeated
              rw [List.all_cons, repeated, Bool.false_and]
          | false => exact Segment.piece_eq_of_not_wildcard wild _ _

/-- The pattern made of segments has one piece for each of them that is not such a wildcard. -/
theorem piecesAfter_eq_closingPieces_firstWildcards (parts : List Segment) :
    piecesAfter false parts = closingPieces (firstWildcards parts) := by
  cases parts with
  | nil => rfl
  | cons segment rest =>
      rw [firstWildcards, List.destutter_cons', closingPieces_destutter',
        piecesAfter_cons (Bool.false_and _)]

/-- Only the last piece can run to the end of a clause. -/
theorem clause_notMem_dropLast_closingPieces (parts : List Segment) :
    Piece.clause ∉ (closingPieces parts).dropLast := by
  induction parts with
  | nil => exact List.not_mem_nil
  | cons segment rest ih =>
      cases rest with
      | nil => exact List.not_mem_nil
      | cons next rest =>
          have others : closingPieces (next :: rest) ≠ [] := List.cons_ne_nil _ _
          rw [closingPieces, List.isEmpty_cons, List.dropLast_cons_of_ne_nil others]
          exact List.not_mem_cons_of_ne_of_not_mem segment.piece_false_ne_clause.symm ih

/-- Whether no two segments of plain text stand next to each other. -/
def Spaced (parts : List Segment) : Prop :=
  parts.IsChain fun segment next => segment.isSlot = true ∨ next.isSlot = true

/-- Joining plain text leaves no two pieces of plain text side by side. -/
theorem Spaced.join {following : List Segment} (spaced : Spaced following) (segment : Segment) :
    Spaced (segment.join following) := by
  fun_cases Segment.join segment following with
  | case1 text next rest =>
      exact List.isChain_cons.mpr (List.isChain_cons.mp spaced)
  | case2 segment following apart =>
      refine List.isChain_cons.mpr ⟨fun next head => ?_, spaced⟩
      obtain ⟨rest, rfl⟩ := List.head?_eq_some_iff.mp head
      cases segment with
      | slot => exact .inl rfl
      | literal text =>
          cases next with
          | slot => exact .inr rfl
          | literal nextText => exact absurd rfl (apart text nextText rest rfl)

/-- Neighbouring plain text of a template is joined. -/
theorem spaced_segments (rules : List SlotRule) (template : List Char) :
    Spaced (segments rules template) := by
  unfold segments
  induction readSegments rules [] template with
  | nil => exact .nil
  | cons segment rest ih => exact ih.join segment

/-- Slots stay between plain text, since a wildcard is dropped only after another one. -/
theorem Spaced.piecesAfter {parts : List Segment} (spaced : Spaced parts) (afterWildcard : Bool) :
    (Locution.piecesAfter afterWildcard parts).Spaced := by
  induction parts generalizing afterWildcard with
  | nil => exact .nil
  | cons segment rest ih =>
      obtain ⟨beside, others⟩ := List.isChain_cons.mp spaced
      cases repeated : afterWildcard && segment.isWildcard with
      | true =>
          obtain ⟨rfl, wild⟩ := Bool.and_eq_true_iff.mp repeated
          rw [piecesAfter_cons_of_wildcard wild]
          exact ih others true
      | false =>
          rw [piecesAfter_cons repeated]
          refine List.isChain_cons.mpr ⟨fun piece head => ?_, ih others _⟩
          rw [segment.captures_piece]
          cases slot : segment.isSlot with
          | true => exact .inl rfl
          | false =>
              cases rest with
              | nil => cases head
              | cons next rest =>
                  have nextSlot := (beside next rfl).resolve_left (slot ▸ Bool.false_ne_true)
                  rw [Segment.isWildcard_eq_false slot, piecesAfter_cons (Bool.false_and _)] at head
                  obtain rfl := Option.some.inj head
                  exact .inr ((next.captures_piece _).trans nextSlot)

namespace Idiom

/-- The segments of an expression without the wildcards that stand directly after another one. -/
def keptSegments (rules : List SlotRule) (expression : String) : List Segment :=
  firstWildcards (segmentsOf rules expression)

/-- No two literals of the pattern of an expression stand next to each other. -/
theorem spaced_pattern_ofExpression (rules : List SlotRule) (expression : String) :
    (ofExpression rules expression).pattern.Spaced :=
  (spaced_segments rules _).piecesAfter false

/-- The pattern of an expression is read back from its printed form. -/
theorem ofPrinted?_pattern_ofExpression (rules : List SlotRule) (expression : String) :
    Pattern.ofPrinted? (ofExpression rules expression).pattern.printed =
      some (ofExpression rules expression).pattern :=
  Pattern.ofPrinted?_printed (solid_pattern_ofExpression rules expression)
    (spaced_pattern_ofExpression rules expression)

/-- **The search follows what is printed.** Looking for an expression in a sentence is looking for
what is read from the printed form of its pattern. -/
theorem find_eq_of_printed [SearchSize] (rules : List SlotRule) (expression : String)
    (sentence : List Char) :
    (Pattern.ofPrinted? (ofExpression rules expression).pattern.printed).map (·.find sentence) =
      some ((ofExpression rules expression).find sentence) := by
  rw [ofPrinted?_pattern_ofExpression, Option.map_some, find]

/-- A possessive slot is printed as the choice that is read as one. -/
example : (ofStandard "on one's own").pattern.printed =
      "on (my|your|his|her|their|its|our|one's) own" ∧
    Pattern.ofPrinted? "on (my|your|his|her|their|its|our|one's) own" =
      some [.literal "on ".toList, .possessive, .literal " own".toList] := by
  decide +kernel

/-- **The printed form of an idiom comes apart in one way only.** An idiom is printed one segment
after the other, without the wildcards that stand directly after another one: the characters of
plain text, with a backslash before those that are special, and a whole fragment for every slot, of
which only the last can be the one that runs to the end of a clause. There is no other way to part
the printed form into such blocks, no character of plain text is an operator of it, and idioms that
are printed alike have the same plain text and the same fragments in the same order. -/
theorem blocks_printed_iff (rules : List SlotRule) (expression : String) :
    (ofExpression rules expression).pattern = closingPieces (keptSegments rules expression) ∧
      Piece.clause ∉ (closingPieces (keptSegments rules expression)).dropLast ∧
      (∀ blocks, (∀ block ∈ blocks, IsBlock block) ∧
          blocks.flatten = (ofExpression rules expression).pattern.printed.toList ↔
        blocks = (closingPieces (keptSegments rules expression)).flatMap Piece.blocks) ∧
      operators (ofExpression rules expression).pattern.printed.toList =
        ((closingPieces (keptSegments rules expression)).filter Piece.captures).flatMap
          (fun fragment => operators fragment.printed) ∧
      ∀ otherRules other, (ofExpression otherRules other).pattern.printed =
          (ofExpression rules expression).pattern.printed ↔
        closingPieces (keptSegments otherRules other) =
          closingPieces (keptSegments rules expression) := by
  have kept (rules : List SlotRule) (expression : String) :
      (ofExpression rules expression).pattern = closingPieces (keptSegments rules expression) :=
    piecesAfter_eq_closingPieces_firstWildcards _
  refine ⟨kept rules expression, clause_notMem_dropLast_closingPieces _, ?_, ?_, ?_⟩
  · intro blocks
    rw [← kept]
    exact Pattern.isBlock_flatten_iff _ blocks
  · rw [← kept]
    exact Pattern.operators_printed _
  · intro otherRules other
    rw [← kept, ← kept]
    exact Pattern.printed_eq_iff (solid_pattern_ofExpression _ _) (solid_pattern_ofExpression _ _)
      (spaced_pattern_ofExpression _ _) (spaced_pattern_ofExpression _ _)

/-- A fragment that is written in an expression is printed as plain text. -/
example : (ofStandard "give (someone) a (.+?)").pattern.printed =
    "give (\\w+) a \\(\\.\\+\\?\\)" := by
  decide +kernel

end Idiom

end Locution
