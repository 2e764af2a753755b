import Locution.Domain.RefusedRanges
import Locution.Domain.SpellingRuns
import Locution.Domain.SpellingSeries
import Locution.Domain.Spellings

/-!
# How a domain spells its characters

Domains are read without regard to capitals, widths and styles of letters. Each character is kept,
passed over, spelled by others, or makes the domain unreadable. The plain characters up to U+007F
are kept, but for their capitals.
-/

namespace Locution.Domain

open Text

/-- How a domain spells a character; a character without a spelling makes it unreadable. -/
def spelling? (c : Char) : Option (List Char) :=
  if c.toNat < 0x80 then some [c.toLower]
  else if passedRanges.contains c then some []
  else if refusedRanges.contains c then none
  else if spellingRuns.image c ≠ c then some [spellingRuns.image c]
  else
    match spellingSeries.image? c.toNat, spellings.lookup c.toNat with
    | some image, _ => some [Char.ofNat image]
    | none, some images => some (images.map Char.ofNat)
    | none, none => some [c]

/-- Whether a domain spells a character by itself. -/
def isKept (c : Char) : Bool :=
  spelling? c == some [c]

/-- How a domain spells a text. -/
def spelled? (text : List Char) : Option (List Char) :=
  (text.mapM spelling?).map List.flatten

end Locution.Domain
