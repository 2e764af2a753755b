import Locution.Pattern.Reader
import Locution.Proofs.Pattern.Printed

/-! # A printed pattern is read back

Reading undoes printing, block by block: a printed character is read as this character
(`Pattern.readAfter_printedChar`) and a fragment as its piece (`Pattern.readAfter_fragment`). So a
pattern in which no literal is empty or stands next to another one is read back from its printed
form (`Pattern.ofPrinted?_printed`), and two such patterns are not printed alike
(`Pattern.printed_eq_iff`).
-/

namespace Locution

namespace Piece

/-- Two fragments do not begin the same text. -/
theorem eq_of_printed_begin {piece other : Piece} (captures : piece.captures = true)
    (otherCaptures : other.captures = true) {text : List Char} (begins : piece.printed <+: text)
    (otherBegins : other.printed <+: text) : piece = other := by
  rcases List.prefix_or_prefix_of_prefix begins otherBegins with shorter | longer
  · exact eq_of_printed_begins captures otherCaptures shorter
  · exact (eq_of_printed_begins otherCaptures captures longer).symm

/-- The fragment that begins a text is found, whatever follows it. -/
theorem ofFragment?_printed {piece : Piece} (captures : piece.captures = true) (rest : List Char) :
    ofFragment? (piece.printed ++ rest) = some piece := by
  have begins : piece.printed <+: piece.printed ++ rest := List.prefix_append _ _
  have listed : piece ∈ fragments := mem_fragments_iff.mpr captures
  cases found : ofFragment? (piece.printed ++ rest) with
  | none =>
      have missed := List.find?_eq_none.mp found piece listed
      exact absurd (List.isPrefixOf_iff_prefix.mpr begins) missed
  | some other =>
      obtain ⟨otherBegins, _⟩ := List.find?_eq_some_iff_append.mp found
      have otherListed : other ∈ fragments := List.mem_of_find?_eq_some found
      rw [eq_of_printed_begin captures (mem_fragments_iff.mp otherListed) begins
        (List.isPrefixOf_iff_prefix.mp otherBegins)]

end Piece

namespace Pattern

variable {pattern other : Pattern}

/-- Whether no two literals of a pattern stand next to each other. -/
def Spaced (pattern : Pattern) : Prop :=
  pattern.IsChain fun piece next => piece.captures = true ∨ next.captures = true

/-- What a fragment still takes is passed over. -/
theorem readAfter_append (taken rest : List Char) :
    readAfter taken.length (taken ++ rest) = readAfter 0 rest := by
  induction taken with
  | nil => rfl
  | cons c taken ih =>
      rw [List.length_cons, List.cons_append, readAfter]
      exact ih

/-- A printed character is read as itself, and what follows it as before. -/
theorem readAfter_printedChar (c : Char) (rest : List Char) :
    readAfter 0 (printedChar c ++ rest) = (readAfter 0 rest).map (consChar c) := by
  unfold printedChar
  split
  · rename_i special
    rw [List.cons_append, List.singleton_append, readAfter, if_pos special]
  · rename_i ordinary
    have unmarked : ∀ d others, c = '\\' → rest = d :: others → False := by
      rintro _ _ rfl
      exact absurd (List.contains_iff_mem.mpr backslash_mem_specialChars) ordinary
    rw [List.singleton_append, readAfter.eq_4 c rest unmarked, if_neg ordinary]

/-- A fragment is read as its piece, and what follows it as before. -/
theorem readAfter_fragment {piece : Piece} (captures : piece.captures = true)
    (rest : List Char) :
    readAfter 0 (piece.printed ++ rest) = (readAfter 0 rest).map (piece :: ·) := by
  have first := Piece.ofFragment?_printed captures rest
  obtain ⟨inner, opens⟩ := Piece.exists_printed_eq captures
  have bracket : specialChars.contains '(' = true :=
    List.contains_iff_mem.mpr bracket_mem_specialChars
  have unmarked : ∀ d others, '(' = '\\' → inner ++ rest = d :: others → False := by
    intro _ _ same
    cases same
  rw [opens, List.cons_append] at first
  rw [opens, List.cons_append, readAfter.eq_4 '(' (inner ++ rest) unmarked, if_pos bracket, first,
    Option.bind_some, opens, List.length_cons, Nat.add_sub_cancel, readAfter_append]

/-- Plain text is put before what follows it character by character. -/
theorem readAfter_flatMap_printedChar (text rest : List Char) :
    readAfter 0 (text.flatMap printedChar ++ rest) =
      (readAfter 0 rest).map fun pattern => text.foldr consChar pattern := by
  induction text with
  | nil => exact Option.map_id'.symm
  | cons c text ih =>
      rw [List.flatMap_cons, List.append_assoc, readAfter_printedChar, ih, Option.map_map]
      rfl

/-- The characters of plain text become one literal where none follows. -/
theorem foldr_consChar {text : List Char} (spaced : Spaced (.literal text :: pattern))
    (filled : text ≠ []) : text.foldr consChar pattern = .literal text :: pattern := by
  induction text with
  | nil => exact absurd rfl filled
  | cons c text ih =>
      cases text with
      | nil =>
          -- The last character begins a literal of its own, since the next piece is none.
          cases pattern with
          | nil => rfl
          | cons piece pattern =>
              have captures := spaced.rel.resolve_left Bool.false_ne_true
              cases piece with
              | literal => cases captures
              | _ => rfl
      | cons d text =>
          have others : Spaced (.literal (d :: text) :: pattern) :=
            List.isChain_cons.mpr (List.isChain_cons.mp spaced)
          rw [List.foldr_cons, ih others (List.cons_ne_nil _ _), consChar]

/-- **A printed pattern is read back**, if it is solid and has no neighbouring literals. -/
theorem ofPrinted?_printed (solid : pattern.Solid) (spaced : pattern.Spaced) :
    ofPrinted? pattern.printed = some pattern := by
  rw [ofPrinted?, printed, String.toList_ofList]
  induction pattern with
  | nil => rfl
  | cons piece pattern ih =>
      obtain ⟨first, others⟩ := List.forall_mem_cons.mp solid
      have rest := ih others spaced.tail
      rw [List.flatMap_cons]
      cases piece with
      | literal text =>
          rw [Piece.printed_literal, readAfter_flatMap_printedChar, rest, Option.map_some,
            foldr_consChar spaced fun empty => first (empty ▸ rfl)]
      | _ => rw [readAfter_fragment rfl, rest, Option.map_some]

/-- Solid patterns without neighbouring literals are printed differently. -/
theorem printed_eq_iff (solid : pattern.Solid) (otherSolid : other.Solid)
    (spaced : pattern.Spaced) (otherSpaced : other.Spaced) :
    pattern.printed = other.printed ↔ pattern = other := by
  refine ⟨fun same => ?_, congrArg printed⟩
  have read := ofPrinted?_printed solid spaced
  rw [same, ofPrinted?_printed otherSolid otherSpaced] at read
  exact (Option.some.inj read).symm

end Pattern

end Locution
