import Locution.Domain.Direction
import Locution.Domain.Label
import Locution.Text.Cut

/-!
# Plain forms of domains

A domain is spelled, composed and cut at its dots; every label must be in order, and their
directions must fit. What is sent over the net is its plain form, which holds no sign that divides
the parts of an address.
-/

namespace Locution.Domain

open Text

/-- The signs that divide the parts of an address, or would be taken for such. -/
def dividingSigns : List Char := "%#/:<>?@[\\]^|".toList

/-- Whether the plain form of a domain can hold a character. -/
def isPlainDomainChar (c : Char) : Bool :=
  0x20 < c.toNat && c.toNat < 0x7F && !dividingSigns.contains c

/-- The plain form of a domain. -/
def plainForm? (domain : List Char) : Option (List Char) := do
  let spelled ← spelled? domain
  let labels ← (cut (· == '.') (composed spelled)).mapM label?
  let plain ← if directionsFit labels then labels.mapM plainLabel? else none
  let form := (plain.intersperse ['.']).flatten
  if form.all isPlainDomainChar then some form else none

end Locution.Domain
