import Mathlib.Data.List.TakeWhile
import Locution.Pattern.Idiom
import Locution.Proofs.Pattern.Realization

/-! # What realizes a template

The segments of a template have a meaning of their own: plain text stands for itself up to case, and
each slot for the texts that may fill it, where neighbouring wildcards count as one and a wildcard
at the end runs to the end of the clause (`Realizes`). The pattern made of the segments has exactly
this meaning (`piecesAfter_eq_closingPieces`, `realizedBy_closingPieces_iff`). Every segment that is
read from a template has characters of its own (`solid_of_mem_segments`), so no part of a pattern
matches nothing.
-/

namespace Locution

open Text

/-- Whether a text may fill a slot; `closing` says that the slot ends the template. -/
def Slot.FilledBy (closing : Bool) : Slot → List Char → Prop
  | .someone, text => IsWord text
  | .possessive, text => IsPronoun text
  | .something, text | .tilde, text | .ellipsis, text =>
    if closing then ClauseText text else IsLinePart text

/-- Whether a text may stand for a segment; `closing` says that the segment ends the template. -/
def Segment.StandsFor (closing : Bool) : Segment → List Char → Prop
  | .literal wanted, text => SameFolded wanted text
  | .slot kind _, text => kind.FilledBy closing text

/-- The texts that realize a sequence of segments, one for each of them. -/
inductive Realizes : List Segment → List (List Char) → Prop where
  | nil : Realizes [] []
  | cons {segment : Segment} {parts : List Segment} {text : List Char} {texts : List (List Char)}
      (stands : segment.StandsFor parts.isEmpty text) (others : Realizes parts texts) :
      Realizes (segment :: parts) (text :: texts)

/-- Segments with each run of neighbouring wildcards counted as one wildcard. -/
def mergeWildcards : List Segment → List Segment
  | [] => []
  | segment :: rest =>
    if segment.isWildcard && rest.head?.any Segment.isWildcard then mergeWildcards rest
    else segment :: mergeWildcards rest

/-- The texts among those that realize segments that fill slots. -/
def slotTexts (parts : List Segment) (texts : List (List Char)) : List (List Char) :=
  (parts.zip texts).filterMap fun (part, text) => part.slot?.map fun _ => text

/-- The piece for a segment; `closing` says that the segment ends the template. -/
def Segment.piece (closing : Bool) : Segment → Piece
  | .literal text => .literal text
  | .slot kind _ => kind.piece closing

/-- The pieces for segments of which no two neighbours are wildcards. -/
def closingPieces : List Segment → Pattern
  | [] => []
  | segment :: rest => segment.piece rest.isEmpty :: closingPieces rest

/-- A wildcard and the wildcards after it count as one. -/
theorem mergeWildcards_cons_wildcard {segment : Segment} (wild : segment.isWildcard = true)
    (rest : List Segment) :
    ∃ last : Segment, last.isWildcard = true ∧
      mergeWildcards (segment :: rest) =
        last :: mergeWildcards (rest.dropWhile Segment.isWildcard) := by
  induction rest generalizing segment with
  | nil => exact ⟨segment, wild, by simp only [mergeWildcards, List.head?_nil, Option.any_none,
      Bool.and_false, Bool.false_eq_true, ↓reduceIte, List.dropWhile_nil]⟩
  | cons next rest ih =>
      by_cases again : next.isWildcard = true
      · obtain ⟨last, lastWild, merged⟩ := ih again
        refine ⟨last, lastWild, ?_⟩
        rw [mergeWildcards, List.head?_cons, Option.any_some, wild, again, Bool.and_self,
          if_pos rfl, merged, List.dropWhile_cons_of_pos again]
      · refine ⟨segment, wild, ?_⟩
        rw [mergeWildcards, List.head?_cons, Option.any_some, Bool.eq_false_iff.mpr again,
          Bool.and_false, if_neg Bool.false_ne_true, List.dropWhile_cons_of_neg again]

/-- A segment that is no wildcard is counted by itself. -/
theorem mergeWildcards_cons_of_not_wildcard {segment : Segment}
    (other : segment.isWildcard = false) (rest : List Segment) :
    mergeWildcards (segment :: rest) = segment :: mergeWildcards rest := by
  rw [mergeWildcards, other, Bool.false_and, if_neg Bool.false_ne_true]

/-- Counting neighbouring wildcards as one leaves something of every template. -/
theorem mergeWildcards_eq_nil_iff {parts : List Segment} :
    mergeWildcards parts = [] ↔ parts = [] := by
  cases parts with
  | nil => exact Iff.rfl
  | cons segment rest =>
      cases wild : segment.isWildcard with
      | true =>
          obtain ⟨last, _, merged⟩ := mergeWildcards_cons_wildcard wild rest
          simp only [merged, reduceCtorEq]
      | false => simp only [mergeWildcards_cons_of_not_wildcard wild, reduceCtorEq]

/-- The wildcards at the beginning are all there is exactly when nothing else is left. -/
theorem all_isWildcard_eq_isEmpty (parts : List Segment) :
    parts.all Segment.isWildcard =
      (mergeWildcards (parts.dropWhile Segment.isWildcard)).isEmpty := by
  rw [Bool.eq_iff_iff, List.isEmpty_iff, mergeWildcards_eq_nil_iff, List.dropWhile_eq_nil_iff,
    List.all_eq_true]

/-- A wildcard becomes the same piece whatever it is written as. -/
theorem Segment.piece_eq_of_wildcard {first second : Segment} (firstWild : first.isWildcard = true)
    (secondWild : second.isWildcard = true) (closing : Bool) :
    first.piece closing = second.piece closing := by
  cases first with
  | literal => cases firstWild
  | slot firstKind _ =>
      cases second with
      | literal => cases secondWild
      | slot secondKind _ =>
          cases firstKind <;> cases firstWild <;> cases secondKind <;> cases secondWild <;> rfl

/-- The pattern made of segments has one piece for each of the merged segments. -/
theorem piecesAfter_eq_closingPieces (parts : List Segment) :
    piecesAfter false parts = closingPieces (mergeWildcards parts) ∧
      piecesAfter true parts =
        closingPieces (mergeWildcards (parts.dropWhile Segment.isWildcard)) := by
  induction parts with
  | nil => exact ⟨rfl, rfl⟩
  | cons segment rest ih =>
      obtain ⟨afterOther, afterWild⟩ := ih
      cases wild : segment.isWildcard with
      | true =>
          rw [List.dropWhile_cons_of_pos wild, ← afterWild]
          obtain ⟨last, lastWild, merged⟩ := mergeWildcards_cons_wildcard wild rest
          rw [merged, closingPieces, ← afterWild, ← all_isWildcard_eq_isEmpty,
            Segment.piece_eq_of_wildcard lastWild wild]
          cases segment with
          | literal => cases wild
          | slot kind token =>
              have kindWild : kind.isWildcard = true := wild
              constructor
              · rw [piecesAfter, kindWild, Bool.and_false, if_neg Bool.false_ne_true]
                rfl
              · rw [piecesAfter, kindWild, Bool.and_true, if_pos rfl]
      | false =>
          rw [List.dropWhile_cons_of_neg (Bool.eq_false_iff.mp wild),
            mergeWildcards_cons_of_not_wildcard wild, closingPieces, ← afterOther]
          cases segment with
          | literal text => exact ⟨rfl, rfl⟩
          | slot kind token =>
              cases kind with
              | someone => exact ⟨rfl, rfl⟩
              | possessive => exact ⟨rfl, rfl⟩
              | something => cases wild
              | tilde => cases wild
              | ellipsis => cases wild

/-- A text may stand for a segment exactly when its piece may take it. -/
theorem Segment.takes_piece_iff (closing : Bool) (segment : Segment) (text : List Char) :
    (segment.piece closing).Takes text ↔ segment.StandsFor closing text := by
  cases segment with
  | literal wanted => exact Iff.rfl
  | slot kind token => cases kind <;> cases closing <;> exact Iff.rfl

/-- The pieces of segments are realized by what realizes the segments. -/
theorem realizedBy_closingPieces_iff {parts : List Segment} {texts : List (List Char)} :
    (closingPieces parts).RealizedBy texts ↔ Realizes parts texts := by
  induction parts generalizing texts with
  | nil =>
      constructor
      · rintro ⟨⟩
        exact .nil
      · rintro ⟨⟩
        exact .nil
  | cons segment rest ih =>
      constructor
      · rintro (_ | ⟨takes, others⟩)
        exact .cons ((segment.takes_piece_iff _ _).mp takes) (ih.mp others)
      · rintro (_ | ⟨stands, others⟩)
        exact .cons ((segment.takes_piece_iff _ _).mpr stands) (ih.mpr others)

/-- Segments without a slot are counted one by one. -/
theorem mergeWildcards_eq_self {parts : List Segment}
    (plain : ∀ segment ∈ parts, segment.slot? = none) : mergeWildcards parts = parts := by
  induction parts with
  | nil => rfl
  | cons segment parts ih =>
      obtain ⟨first, others⟩ := List.forall_mem_cons.mp plain
      cases segment with
      | literal text => rw [mergeWildcards_cons_of_not_wildcard rfl, ih others]
      | slot kind token => cases first

/-- Segments without a slot are realized by what equals their text up to case. -/
theorem Realizes.sameFolded {parts : List Segment} {texts : List (List Char)}
    (realized : Realizes parts texts) (plain : ∀ segment ∈ parts, segment.slot? = none) :
    SameFolded (parts.flatMap Segment.written) texts.flatten := by
  induction realized with
  | nil => exact .nil
  | @cons segment parts text texts stands _ ih =>
      obtain ⟨first, others⟩ := List.forall_mem_cons.mp plain
      cases segment with
      | literal wanted => exact List.rel_append stands (ih others)
      | slot kind token => cases first

/-- What the capturing pieces for segments take is what fills the slots. -/
theorem captured_closingPieces (parts : List Segment) (texts : List (List Char))
    (rest : List Char) :
    (closingPieces parts).captured (texts.map List.length) (texts.flatten ++ rest) =
      slotTexts parts texts := by
  induction parts generalizing texts with
  | nil => rfl
  | cons segment others ih =>
      cases texts with
      | nil => rfl
      | cons text texts =>
          have tail := ih texts
          rw [List.flatten_cons, List.append_assoc, List.map_cons, closingPieces,
            Pattern.captured, List.take_left, List.drop_left, tail]
          cases segment with
          | literal wanted => rfl
          | slot kind token => cases kind <;> cases others.isEmpty <;> rfl

/-- A segment is solid when it is not an empty text. -/
def Segment.Solid (segment : Segment) : Prop :=
  segment ≠ .literal []

/-- The slot that a rule reads has characters of its own. -/
theorem SlotRule.solid_of_read? {rule : SlotRule} {template rest : List Char} {segment : Segment}
    (read : rule.read? template = some (segment, rest)) : segment.Solid := by
  obtain ⟨left, _, made⟩ := Option.map_eq_some_iff.mp read
  obtain ⟨rfl, _⟩ := Prod.mk.inj made
  exact Segment.noConfusion

/-- Every segment that is read has characters. -/
theorem solid_of_mem_readSegments {rules : List SlotRule} {done : List Segment}
    {template : List Char} (before : ∀ segment ∈ done, segment.Solid) :
    ∀ segment ∈ readSegments rules done template, segment.Solid := by
  fun_induction readSegments rules done template with
  | case1 done => exact fun segment member => before segment (List.mem_reverse.mp member)
  | case2 done c template segment rest read ih =>
      obtain ⟨rule, _, found⟩ := List.exists_of_findSome?_eq_some read
      exact ih (List.forall_mem_cons.mpr ⟨SlotRule.solid_of_read? found, before⟩)
  | case3 done c template read count ih =>
      have positive : 0 < count := by
        simp only [count, plainLength]
        split <;> omega
      have filled : (Segment.literal ((c :: template).take count)).Solid := by
        intro empty
        have nothing := Segment.literal.inj empty
        rw [← Nat.sub_one_add_one_eq_of_pos positive, List.take_succ_cons] at nothing
        cases nothing
      exact ih (List.forall_mem_cons.mpr ⟨filled, before⟩)

/-- Joining plain text leaves segments with characters of their own. -/
theorem Segment.solid_of_mem_join {segment : Segment} {following : List Segment}
    (first : segment.Solid) (others : ∀ next ∈ following, next.Solid) :
    ∀ next ∈ segment.join following, next.Solid := by
  fun_cases Segment.join segment following with
  | case1 text next rest =>
      refine List.forall_mem_cons.mpr ⟨fun empty => ?_, fun other member =>
        others other (List.mem_cons_of_mem _ member)⟩
      have both := List.append_eq_nil_iff.mp (Segment.literal.inj empty)
      exact first (congrArg Segment.literal both.1)
  | case2 => exact List.forall_mem_cons.mpr ⟨first, others⟩

/-- Every segment of a template has characters. -/
theorem solid_of_mem_segments (rules : List SlotRule) (template : List Char) :
    ∀ segment ∈ segments rules template, segment.Solid := by
  have read : ∀ segment ∈ readSegments rules [] template, segment.Solid :=
    solid_of_mem_readSegments fun segment member => absurd member List.not_mem_nil
  unfold segments
  generalize readSegments rules [] template = found at read
  induction found with
  | nil => exact fun segment member => absurd member List.not_mem_nil
  | cons segment rest ih =>
      obtain ⟨first, others⟩ := List.forall_mem_cons.mp read
      exact Segment.solid_of_mem_join first (ih others)

/-- Merged wildcards are among the segments. -/
theorem mergeWildcards_sublist (parts : List Segment) : (mergeWildcards parts).Sublist parts := by
  induction parts with
  | nil => exact .slnil
  | cons segment rest ih =>
      rw [mergeWildcards]
      split
      · exact ih.cons segment
      · exact ih.cons_cons segment

/-- The pieces of segments with characters of their own match no empty text. -/
theorem solid_closingPieces {parts : List Segment} (solid : ∀ segment ∈ parts, segment.Solid) :
    (closingPieces parts).Solid := by
  induction parts with
  | nil => exact fun piece member => absurd member List.not_mem_nil
  | cons segment rest ih =>
      obtain ⟨first, others⟩ := List.forall_mem_cons.mp solid
      refine List.forall_mem_cons.mpr ⟨?_, ih others⟩
      cases segment with
      | literal text =>
          exact fun empty => first (congrArg Segment.literal (Piece.literal.inj empty))
      | slot kind token => cases kind <;> cases rest.isEmpty <;> exact Piece.noConfusion

namespace Idiom

/-- The segments of an expression that count: its neighbouring wildcards are one. -/
def parts (rules : List SlotRule) (expression : String) : List Segment :=
  mergeWildcards (segmentsOf rules expression)

/-- The pattern of an idiom has one piece for each part of the expression. -/
theorem pattern_ofExpression (rules : List SlotRule) (expression : String) :
    (ofExpression rules expression).pattern = closingPieces (parts rules expression) :=
  (piecesAfter_eq_closingPieces _).1

/-- Every piece of the pattern of an idiom takes at least one character. -/
theorem solid_pattern_ofExpression (rules : List SlotRule) (expression : String) :
    (ofExpression rules expression).pattern.Solid := by
  rw [pattern_ofExpression]
  exact solid_closingPieces fun segment member =>
    solid_of_mem_segments rules _ segment ((mergeWildcards_sublist _).mem member)

/-- There is nothing to search for when an expression has no segments. -/
theorem isEmpty_ofExpression (rules : List SlotRule) (expression : String) :
    (ofExpression rules expression).isEmpty = (segmentsOf rules expression).isEmpty := by
  have merged : mergeWildcards (segmentsOf rules expression) = [] ↔
      segmentsOf rules expression = [] := mergeWildcards_eq_nil_iff
  rw [isEmpty, pattern_ofExpression, parts, Bool.eq_iff_iff, List.isEmpty_iff, List.isEmpty_iff,
    ← merged]
  cases mergeWildcards (segmentsOf rules expression) <;>
    simp only [closingPieces, reduceCtorEq]

end Idiom

end Locution
