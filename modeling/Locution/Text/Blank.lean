import Locution.Text.CodeRanges

/-!
# White space

White space is the property White_Space. A text is blank when it holds nothing else, and trimming
removes it at the ends. A trimmed text begins and ends with another character, and a blank text is
trimmed away entirely (`trimEnd_eq_nil_iff`).
-/

namespace Locution.Text

/-- Ranges of the characters with the property White_Space. -/
def whiteSpaceRanges : CodeRanges := [
  (0x9, 0xD), (0x20, 0x20), (0x85, 0x85), (0xA0, 0xA0), (0x1680, 0x1680), (0x2000, 0x200A),
  (0x2028, 0x2029), (0x202F, 0x202F), (0x205F, 0x205F), (0x3000, 0x3000)]

/-- Whether a character is white space. -/
def isSpace (c : Char) : Bool :=
  whiteSpaceRanges.contains c

/-- A text without the white space at its beginning. -/
def trimStart (text : List Char) : List Char :=
  text.dropWhile isSpace

/-- A text without the white space at its end. -/
def trimEnd (text : List Char) : List Char :=
  (trimStart text.reverse).reverse

/-- A text without the white space at both ends. -/
def trim (text : List Char) : List Char :=
  trimEnd (trimStart text)

/-- Whether a text holds nothing but white space. -/
def isBlank (text : String) : Bool :=
  text.toList.all isSpace

/-- Trimming the beginning leaves nothing exactly when there is nothing but white space. -/
theorem trimStart_eq_nil_iff (text : List Char) :
    trimStart text = [] ↔ ∀ c ∈ text, isSpace c = true := by
  induction text with
  | nil => simp only [trimStart, List.dropWhile_nil, List.not_mem_nil, false_implies, implies_true]
  | cons c text ih =>
    simp only [trimStart] at ih
    cases space : isSpace c <;>
      simp [trimStart, space, ih]

/-- Trimming the end leaves nothing exactly when there is nothing but white space. -/
theorem trimEnd_eq_nil_iff (text : List Char) :
    trimEnd text = [] ↔ ∀ c ∈ text, isSpace c = true := by
  simp only [trimEnd, List.reverse_eq_nil_iff, trimStart_eq_nil_iff, List.mem_reverse]

/-- Trimming the end makes no text longer. -/
theorem length_trimEnd_le (text : List Char) : (trimEnd text).length ≤ text.length := by
  simpa only [trimEnd, trimStart, List.length_reverse] using
    (List.dropWhile_sublist (l := text.reverse) isSpace).length_le

end Locution.Text
