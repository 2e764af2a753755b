import Locution.Proofs.Pattern.Attempts
import Locution.Proofs.Text.LetterCase

/-! # Patterns and the case of letters

The pieces of a pattern do not look at the case of ASCII letters, neither in the text that is
searched nor in their own plain text. Each piece tries the same lengths when these letters are made
small in both (`Piece.attempts_lowered`). So two patterns that differ only in the case of letters
have the same match in two texts that differ only in the case of letters
(`Pattern.first?_eq_of_sameLetters`).
-/

namespace Locution

open Text

/-- Whether a clause ends at a character does not depend on its case. -/
@[simp]
theorem isClauseMark_toLower (c : Char) : isClauseMark c.toLower = isClauseMark c := by
  rw [isClauseMark, isClauseMark, beq_toLower rfl, beq_toLower rfl, beq_toLower rfl,
    beq_toLower rfl, beq_toLower rfl, beq_toLower rfl]

@[simp]
theorem isSeparator_toLower (c : Char) : isSeparator c.toLower = isSeparator c := by
  rw [isSeparator, isSeparator, beq_toLower rfl, beq_toLower rfl, beq_toLower rfl]

@[simp]
theorem isPlain_toLower (c : Char) : isPlain c.toLower = isPlain c := by
  simp only [isPlain, isClauseMark_toLower, isSpace_toLower]

theorem bne_feed_toLower (c : Char) : (c.toLower != '\n') = (c != '\n') := by
  rw [bne, bne, beq_toLower rfl]

/-- The ends of a clause do not depend on the case of its letters. -/
theorem clauseAttempts_map_toLower (text : List Char) :
    clauseAttempts (text.map Char.toLower) = clauseAttempts text := by
  fun_induction clauseAttempts text with
  | case1 => rfl
  | case2 c plain => simp [clauseAttempts, plain]
  | case3 c rough => simp [clauseAttempts, rough]
  | case4 c d rest shorter shortest =>
      rw [List.map_cons] at shorter
      simp only [List.map_cons, clauseAttempts, isClauseMark_toLower, isSeparator_toLower,
        isPlain_toLower, shorter, shortest]

namespace Piece

theorem captures_lowered (piece : Piece) : piece.lowered.captures = piece.captures := by
  cases piece <;> rfl

/-- A piece tries the same lengths whatever the case of the letters. -/
theorem attempts_lowered (piece : Piece) (text : List Char) :
    piece.lowered.attempts (text.map Char.toLower) = piece.attempts text := by
  cases piece with
  | literal lead =>
      simp only [lowered, attempts, dropFolded_lead_map_toLower, dropFolded_map_toLower,
        Option.isSome_map, List.length_map]
  | possessive => simp only [lowered, attempts, dropFolded_map_toLower, Option.isSome_map]
  | word =>
      simp only [lowered, attempts, List.takeWhile_map, List.length_map, Function.comp_def,
        isWordChar_toLower]
  | run =>
      simp only [lowered, attempts, List.takeWhile_map, List.length_map, Function.comp_def,
        bne_feed_toLower]
  | clause => exact clauseAttempts_map_toLower text

end Piece

namespace Pattern

/-- The preferred match does not depend on the case of the pattern and the text. -/
theorem preferred?_lowered (pattern : Pattern) (text : List Char) :
    preferred? (pattern.map Piece.lowered) (text.map Char.toLower) = preferred? pattern text := by
  induction pattern generalizing text with
  | nil => rfl
  | cons piece pattern ih =>
      have onward : takeThen (preferred? (pattern.map Piece.lowered)) (text.map Char.toLower) =
          takeThen (preferred? pattern) text := by
        funext length
        rw [takeThen, takeThen, ← List.map_drop, ih]
      rw [List.map_cons, preferred?, preferred?, Piece.attempts_lowered, onward]

/-- The preferred matches at all places do not depend on the case. -/
theorem map_preferred?_tails (pattern : Pattern) (text : List Char) :
    text.tails.map pattern.preferred? =
      (text.map Char.toLower).tails.map (preferred? (pattern.map Piece.lowered)) := by
  rw [List.map_tails, List.map_map]
  congr 1
  funext rest
  exact (preferred?_lowered pattern rest).symm

/-- The search does not look at the case of letters. -/
theorem first?_eq_of_sameLetters {pattern other : Pattern} (solid : pattern.Solid)
    (otherSolid : other.Solid) (alike : pattern.map Piece.lowered = other.map Piece.lowered)
    {sentence text : List Char} (same : SameLetters sentence text) :
    pattern.first? sentence = other.first? text := by
  rw [first?, first?, column_eq_map_tails solid, column_eq_map_tails otherSolid,
    map_preferred?_tails pattern, map_preferred?_tails other, alike, sameLetters_iff.mp same]

/-- What is captured in a text in small letters is what is captured in the text, in small
letters. -/
theorem captured_lowered (pattern : Pattern) (lengths : Lengths) (text : List Char) :
    captured (pattern.map Piece.lowered) lengths (text.map Char.toLower) =
      (pattern.captured lengths text).map (List.map Char.toLower) := by
  induction pattern generalizing lengths text with
  | nil => rfl
  | cons piece pattern ih =>
      cases lengths with
      | nil => rfl
      | cons length lengths =>
          simp only [List.map_cons, captured, Piece.captures_lowered, ← List.map_drop,
            ← List.map_take, ih]
          split <;> rfl

end Pattern

end Locution
