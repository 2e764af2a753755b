import Locution.Domain.CombiningRuns
import Locution.Domain.Composed
import Locution.Domain.JoiningRanges

/-!
# Joiners

Two characters that do not show, the joiner U+200D and the non-joiner U+200C, have a say in how the
letters around them are written. They fit where they make a difference: both after a mark that
silences a vowel, and the non-joiner also between letters that would join.
-/

namespace Locution.Domain

open Text

/-- The class of the marks that silence a vowel. -/
def silencingClass : Nat := 9

/-- Whether a text written backwards ends in a mark that silences a vowel. -/
def isSilenced (before : List Char) : Bool :=
  before.head?.any (combiningClass · == silencingClass)

/-- Whether the letter at the end of a text written backwards joins what follows. -/
def joinsForward (before : List Char) : Bool :=
  (before.dropWhile transparentRanges.contains).head?.any fun c =>
    forwardJoinRanges.contains c || bothJoinRanges.contains c

/-- Whether the letter at the beginning of a text joins what stands before. -/
def joinsBackward (after : List Char) : Bool :=
  (after.dropWhile transparentRanges.contains).head?.any fun c =>
    backwardJoinRanges.contains c || bothJoinRanges.contains c

/-- Whether the joiners in a text fit, given what stands before it, backwards. -/
def joinersFitAfter (before : List Char) : List Char → Bool
  | [] => true
  | c :: after =>
    (if c == '\u200C' then isSilenced before || joinsForward before && joinsBackward after
      else if c == '\u200D' then isSilenced before
      else true) &&
    joinersFitAfter (c :: before) after

/-- Whether the joiners in a text fit. -/
def joinersFit (text : List Char) : Bool :=
  joinersFitAfter [] text

end Locution.Domain
