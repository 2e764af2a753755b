import Locution.Text.LowercaseRuns
import Locution.Text.CasingRanges

/-!
# Lowercase

The full lowercase mapping. One character, U+0130, becomes two; a capital sigma becomes the final
form where a word ends, and the common form elsewhere. The rule for the sigma looks at the nearest
characters on both sides that are not ignored for casing.
-/

namespace Locution.Text

/-- The lowercase of one character by itself. -/
def lowerChar (c : Char) : List Char :=
  if c == '\u0130' then ['i', '\u0307'] else [lowercaseRuns.image c]

/-- Whether the first character that counts for casing is a cased one. -/
def meetsCased (text : List Char) : Bool :=
  match text.dropWhile caseIgnorableRanges.contains with
  | [] => false
  | c :: _ => casedRanges.contains c

/-- The lowercase of a capital sigma between the reversed text before it and the text after it. -/
def lowerSigma (before after : List Char) : Char :=
  if meetsCased before && !meetsCased after then 'ς' else 'σ'

/-- The lowercase of a text that follows the reversed text `before`. -/
def lowerAfter : (before text : List Char) → List Char
  | _, [] => []
  | before, c :: text =>
    (if c == 'Σ' then [lowerSigma before text] else lowerChar c) ++ lowerAfter (c :: before) text

/-- The lowercase of a text. -/
def lowercase (text : List Char) : List Char :=
  lowerAfter [] text

end Locution.Text
