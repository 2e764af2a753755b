import Locution.Text.Lowercase

/-!
# Word for word

Two texts are compared word for word after everything but the letters and digits of ASCII is taken
for a gap: case is dropped, gaps between words become one blank each, and gaps at the ends vanish.
An expression stands word for word in a text when its normal form is a part of the text's
(`occursIn_iff`).
-/

namespace Locution

open Text

/-- Whether a character counts in a normal form. -/
def isPlainWordChar (c : Char) : Bool :=
  ('a' ≤ c && c ≤ 'z') || ('0' ≤ c && c ≤ '9')

/-- The normal form of lowercase characters: `started` once a character was kept, `gap` when
something was left out since then. -/
def normalFrom : (started gap : Bool) → List Char → List Char
  | _, _, [] => []
  | started, gap, c :: text =>
    if isPlainWordChar c then
      (if started && gap then [' ', c] else [c]) ++ normalFrom true false text
    else normalFrom started true text

/-- The normal form of a text. Every character is made lowercase by itself. -/
def normalForm (text : List Char) : List Char :=
  normalFrom false false (text.flatMap lowerChar)

/-- The normal form of a text. -/
def normalize (text : String) : String :=
  String.ofList (normalForm text.toList)

/-- Whether a part stands anywhere in a text. -/
def occursIn (part : List Char) : List Char → Bool
  | [] => part.isEmpty
  | c :: text => part.isPrefixOf (c :: text) || occursIn part text

/-- A part stands in a text exactly when the text is made of something before the part, the part,
and something after it. -/
theorem occursIn_iff (part text : List Char) : occursIn part text = true ↔ part <:+: text := by
  induction text with
  | nil => simp only [occursIn, List.isEmpty_iff, List.infix_nil]
  | cons c text ih =>
    simp only [occursIn, Bool.or_eq_true, List.isPrefixOf_iff_prefix, ih, List.infix_cons_iff]

/-- Whether an expression stands word for word in a text. -/
def isVerbatim (expression text : String) : Bool :=
  occursIn (normalForm expression.toList) (normalForm text.toList)

end Locution
