import Locution.Domain.Bootstring
import Locution.Domain.Composed
import Locution.Domain.Joiner
import Locution.Domain.MarkRanges
import Locution.Domain.Spelling

/-!
# Labels

The parts of a domain between its dots are labels. A label with characters that are not plain has
another form in plain characters, which begins with a mark of its own. Both forms stand for one
label, and a label must be in order: composed, not led by a mark, of characters that are spelled by
themselves.
-/

namespace Locution.Domain

open Text

/-- What the plain form of a label begins with. -/
def plainMark : List Char := "xn--".toList

/-- How many characters a label can have before it is turned into its plain form. -/
def longestWritten : Nat := 1000

/-- How many characters a plain form can have after its mark. -/
def longestRead : Nat := 2000

/-- Whether a label is in order. -/
def isLabel (label : List Char) : Bool :=
  !plainMark.isPrefixOf label && !label.head?.any markRanges.contains && label.all isKept &&
    composed label == label && joinersFit label

/-- The label that a written label stands for, if that is in order. -/
def label? (written : List Char) : Option (List Char) :=
  if plainMark.isPrefixOf written then do
    let form := written.drop plainMark.length
    let label ← if form.length ≤ longestRead then Bootstring.decode? form else none
    if written.all Bootstring.isPlain && !label.all Bootstring.isPlain && isLabel label then
      some label
    else none
  else if isLabel written then some written
  else none

/-- The form of a label in plain characters. -/
def plainLabel? (label : List Char) : Option (List Char) :=
  if label.all Bootstring.isPlain then some label
  else if label.length ≤ longestWritten then some (plainMark ++ Bootstring.encode label)
  else none

end Locution.Domain
