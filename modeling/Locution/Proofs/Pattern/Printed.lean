import Locution.Pattern.Reader
import Locution.Proofs.Pattern.Attempts

/-! # The printed form of a pattern

A printed pattern is made of blocks: a plain character, a marked special character, or a whole
fragment. No block begins another one (`IsBlock.eq_of_append_eq`), so a printed pattern comes apart
into blocks in one way only (`Pattern.isBlock_flatten_iff`), and its operators are those of its
fragments (`Pattern.operators_printed`).
-/

namespace Locution

/-- The parts of the printed form of a pattern that are not parted further: a character that is not
special, a special character behind a backslash, and a fragment. -/
inductive IsBlock : List Char → Prop where
  | plain {c : Char} (ordinary : c ∉ specialChars) : IsBlock [c]
  | escaped {c : Char} (special : c ∈ specialChars) : IsBlock ['\\', c]
  | fragment {piece : Piece} (captures : piece.captures = true) : IsBlock piece.printed

theorem backslash_mem_specialChars : '\\' ∈ specialChars := by
  decide

theorem bracket_mem_specialChars : '(' ∈ specialChars := by
  decide

/-- The printed form of a character is one block. -/
theorem isBlock_printedChar (c : Char) : IsBlock (printedChar c) := by
  unfold printedChar
  split
  · rename_i special
    exact .escaped (List.contains_iff_mem.mp special)
  · rename_i ordinary
    exact .plain fun special => ordinary (List.contains_iff_mem.mpr special)

namespace Piece

/-- Plain text is printed character by character. -/
theorem printed_literal (text : List Char) : printed (.literal text) = text.flatMap printedChar :=
  rfl

/-- The fragments are those of the pieces that fill slots. -/
theorem mem_fragments_iff {piece : Piece} : piece ∈ fragments ↔ piece.captures = true := by
  cases piece <;> simp [fragments, captures]

theorem head?_printed_of_mem_fragments :
    ∀ piece ∈ fragments, piece.printed.head? = some '(' := by
  decide

/-- No fragment begins another one: all pairs of them are compared. -/
theorem eq_of_printed_prefix_of_mem_fragments :
    ∀ piece ∈ fragments, ∀ other ∈ fragments, piece.printed <+: other.printed →
      piece = other := by
  decide +kernel

/-- No fragment begins another one. -/
theorem eq_of_printed_begins {piece other : Piece} (captures : piece.captures = true)
    (otherCaptures : other.captures = true) (begins : piece.printed <+: other.printed) :
    piece = other :=
  eq_of_printed_prefix_of_mem_fragments piece (mem_fragments_iff.mpr captures) other
    (mem_fragments_iff.mpr otherCaptures) begins

/-- A piece that fills a slot is printed in brackets. -/
theorem exists_printed_eq {piece : Piece} (captures : piece.captures = true) :
    ∃ inner, piece.printed = '(' :: inner :=
  List.head?_eq_some_iff.mp
    (head?_printed_of_mem_fragments piece (mem_fragments_iff.mpr captures))

end Piece

namespace IsBlock

variable {block other : List Char}

theorem ne_nil (is : IsBlock block) : block ≠ [] := by
  cases is with
  | plain => exact List.cons_ne_nil _ _
  | escaped => exact List.cons_ne_nil _ _
  | fragment captures =>
      obtain ⟨inner, opens⟩ := Piece.exists_printed_eq captures
      rw [opens]
      exact List.cons_ne_nil _ _

/-- No block begins another one. -/
theorem eq_of_append_eq {rest : List Char} (is : IsBlock block) (otherIs : IsBlock other)
    (same : block ++ rest = other) : block = other := by
  cases is with
  | plain ordinary =>
      cases otherIs with
      | plain => rw [(List.cons.inj same).1]
      | escaped =>
          obtain ⟨rfl, _⟩ := List.cons.inj same
          exact absurd backslash_mem_specialChars ordinary
      | fragment captures =>
          obtain ⟨inner, opens⟩ := Piece.exists_printed_eq captures
          obtain ⟨rfl, _⟩ := List.cons.inj (same.trans opens)
          exact absurd bracket_mem_specialChars ordinary
  | escaped =>
      cases otherIs with
      | plain => cases (List.cons.inj same).2
      | escaped => rw [(List.cons.inj (List.cons.inj same).2).1]
      | fragment captures =>
          obtain ⟨inner, opens⟩ := Piece.exists_printed_eq captures
          cases (List.cons.inj (same.trans opens)).1
  | fragment captures =>
      obtain ⟨inner, opens⟩ := Piece.exists_printed_eq captures
      cases otherIs with
      | plain ordinary =>
          rw [opens] at same
          obtain ⟨rfl, _⟩ := List.cons.inj same
          exact absurd bracket_mem_specialChars ordinary
      | escaped =>
          rw [opens] at same
          cases (List.cons.inj same).1
      | fragment otherCaptures =>
          rw [Piece.eq_of_printed_begins captures otherCaptures ⟨rest, same⟩]

/-- Blocks that make up the same text are the same. -/
theorem eq_of_flatten_eq {blocks others : List (List Char)} (are : ∀ block ∈ blocks, IsBlock block)
    (otherAre : ∀ other ∈ others, IsBlock other) (same : blocks.flatten = others.flatten) :
    blocks = others := by
  induction blocks generalizing others with
  | nil =>
      cases others with
      | nil => rfl
      | cons other others =>
          have nothing := List.append_eq_nil_iff.mp same.symm
          exact absurd nothing.1 (otherAre other List.mem_cons_self).ne_nil
  | cons block blocks ih =>
      obtain ⟨is, rest⟩ := List.forall_mem_cons.mp are
      cases others with
      | nil => exact absurd (List.append_eq_nil_iff.mp same).1 is.ne_nil
      | cons other others =>
          obtain ⟨otherIs, otherRest⟩ := List.forall_mem_cons.mp otherAre
          rw [List.flatten_cons, List.flatten_cons] at same
          have equal : block = other := by
            rcases List.append_eq_append_iff.mp same with
              ⟨inner, longer, _⟩ | ⟨inner, shorter, _⟩
            · exact is.eq_of_append_eq otherIs longer.symm
            · exact (otherIs.eq_of_append_eq is shorter.symm).symm
          subst equal
          rw [ih rest otherRest (List.append_cancel_left same)]

end IsBlock

/-- The special characters of a text that do not stand behind a backslash of their own. -/
def operators : List Char → List Char
  | [] => []
  | '\\' :: _ :: rest => operators rest
  | c :: rest => if specialChars.contains c then c :: operators rest else operators rest

/-- A character that is not escaped is an operator when it is special. -/
theorem operators_cons_of_ne {c : Char} (other : c ≠ '\\') (rest : List Char) :
    operators (c :: rest) =
      if specialChars.contains c then c :: operators rest else operators rest := by
  rw [operators]
  rintro d others rfl
  exact absurd rfl other

/-- A block keeps its operators whatever follows it. -/
theorem IsBlock.operators_append {block : List Char} (is : IsBlock block) (rest : List Char) :
    operators (block ++ rest) = operators block ++ operators rest := by
  cases is with
  | @plain c ordinary =>
      have other : c ≠ '\\' := fun same => ordinary (same ▸ backslash_mem_specialChars)
      have unmarked : specialChars.contains c = false := by
        rwa [List.contains_eq_mem, decide_eq_false_iff_not]
      rw [List.singleton_append, operators_cons_of_ne other, operators_cons_of_ne other, unmarked]
      rfl
  | escaped => rfl
  | @fragment piece captures =>
      cases piece with
      | literal => cases captures
      | word => rfl
      | possessive => rfl
      | run => rfl
      | clause => rfl

/-- The operators of several blocks are those of each of them. -/
theorem operators_flatten {blocks : List (List Char)} (are : ∀ block ∈ blocks, IsBlock block) :
    operators blocks.flatten = blocks.flatMap operators := by
  induction blocks with
  | nil => rfl
  | cons block blocks ih =>
      obtain ⟨is, rest⟩ := List.forall_mem_cons.mp are
      rw [List.flatten_cons, is.operators_append, ih rest, List.flatMap_cons]

/-- No character of plain text is an operator. -/
theorem operators_printedChar (c : Char) : operators (printedChar c) = [] := by
  unfold printedChar
  split
  · rfl
  · rename_i ordinary
    have other : c ≠ '\\' := by
      rintro rfl
      exact ordinary (List.contains_iff_mem.mpr backslash_mem_specialChars)
    rw [operators_cons_of_ne other, if_neg ordinary]
    rfl

namespace Piece

/-- The blocks of the printed form of a piece: one for each character of plain text, and one for a
fragment. -/
def blocks : Piece → List (List Char)
  | .literal text => text.map printedChar
  | piece => [piece.printed]

/-- The blocks of a piece make up its printed form. -/
theorem flatten_blocks (piece : Piece) : piece.blocks.flatten = piece.printed := by
  cases piece with
  | literal text => rfl
  | _ => exact List.flatten_singleton

theorem isBlock_of_mem_blocks {piece : Piece} {block : List Char} (inside : block ∈ piece.blocks) :
    IsBlock block := by
  cases piece with
  | literal text =>
      obtain ⟨c, _, rfl⟩ := List.mem_map.mp inside
      exact isBlock_printedChar c
  | _ =>
      obtain rfl := List.mem_singleton.mp inside
      exact .fragment rfl

/-- A piece that takes something is printed as something. -/
theorem Solid.printed_ne_nil {piece : Piece} (solid : piece.Solid) : piece.printed ≠ [] := by
  cases captures : piece.captures with
  | true => exact (IsBlock.fragment captures).ne_nil
  | false =>
      cases piece with
      | literal text =>
          cases text with
          | nil => exact absurd rfl solid
          | cons c text =>
              intro nothing
              rw [printed_literal, List.flatMap_cons] at nothing
              exact (isBlock_printedChar c).ne_nil (List.append_eq_nil_iff.mp nothing).1
      | _ => cases captures

end Piece

namespace Pattern

variable {pattern : Pattern}

/-- The blocks of its pieces make up a printed pattern. -/
theorem flatten_flatMap_blocks (pattern : Pattern) :
    (pattern.flatMap Piece.blocks).flatten = pattern.printed.toList := by
  rw [printed, String.toList_ofList]
  induction pattern with
  | nil => rfl
  | cons piece pattern ih =>
      rw [List.flatMap_cons, List.flatten_append, piece.flatten_blocks, ih, List.flatMap_cons]

theorem isBlock_of_mem_flatMap_blocks {block : List Char}
    (inside : block ∈ pattern.flatMap Piece.blocks) : IsBlock block := by
  obtain ⟨piece, _, inside⟩ := List.mem_flatMap.mp inside
  exact Piece.isBlock_of_mem_blocks inside

/-- Nothing is printed for the empty pattern only. -/
theorem printed_eq_empty_iff (solid : pattern.Solid) : pattern.printed = "" ↔ pattern = [] := by
  refine ⟨fun nothing => ?_, fun empty => empty ▸ rfl⟩
  cases pattern with
  | nil => rfl
  | cons piece pattern =>
      have characters := congrArg String.toList nothing
      rw [printed, String.toList_ofList, List.flatMap_cons] at characters
      have first : piece.Solid := solid piece List.mem_cons_self
      exact absurd (List.append_eq_nil_iff.mp characters).1 first.printed_ne_nil

/-- A printed pattern comes apart into blocks in one way only. -/
theorem isBlock_flatten_iff (pattern : Pattern) (blocks : List (List Char)) :
    (∀ block ∈ blocks, IsBlock block) ∧ blocks.flatten = pattern.printed.toList ↔
      blocks = pattern.flatMap Piece.blocks := by
  rw [← pattern.flatten_flatMap_blocks]
  constructor
  · rintro ⟨are, same⟩
    exact IsBlock.eq_of_flatten_eq are (fun _ => isBlock_of_mem_flatMap_blocks) same
  · rintro rfl
    exact ⟨fun _ => isBlock_of_mem_flatMap_blocks, rfl⟩

/-- The operators of a printed pattern are those of its fragments. -/
theorem operators_printed (pattern : Pattern) :
    operators pattern.printed.toList =
      (pattern.filter Piece.captures).flatMap fun piece => operators piece.printed := by
  rw [← pattern.flatten_flatMap_blocks, operators_flatten fun _ => isBlock_of_mem_flatMap_blocks]
  induction pattern with
  | nil => rfl
  | cons piece pattern ih =>
      rw [List.flatMap_cons, List.flatMap_append, ih]
      cases piece with
      | literal text =>
          have none : (text.map printedChar).flatMap operators = [] := by
            simp [operators_printedChar]
          rw [Piece.blocks, none, List.filter_cons_of_neg Bool.false_ne_true]
          rfl
      | _ => rfl

end Pattern

end Locution
