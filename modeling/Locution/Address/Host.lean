import Locution.Address.Groups
import Locution.Domain.PlainForm

/-!
# Hosts

A host is a domain, a number of four bytes or, between brackets, a number of eight groups. Outside
of the schemes that a host always follows it can be any name, which is kept as it is.
-/

namespace Locution.Address

/-- The host of an address. -/
inductive Host where
  | domain (plain : List Char)
  | quad (number : Nat)
  | groups (numbers : List Nat)
  | name (text : List Char)
  deriving DecidableEq

namespace Host

/-- The text of a host. -/
def text : Host → List Char
  | domain plain => plain
  | quad number => quadText number
  | groups numbers => ['['] ++ groupsText numbers ++ [']']
  | name text => text

/-- Reads a host between brackets. -/
def ofBracketed? (text : List Char) : Option Host :=
  if text.getLast? = some ']' then (groups? (text.drop 1).dropLast).map groups else none

/-- Reads a domain or a number of four bytes. -/
def ofDomain? (text : List Char) : Option Host := do
  let text ← textOf? (percentDecoded text)
  let plain ← Domain.plainForm? text
  if plain.isEmpty then none
  else if endsInNumber plain then (quad? plain).map quad
  else some (domain plain)

/-- Reads the host of a scheme that is followed by one, or of a file. -/
def ofText? (text : List Char) : Option Host :=
  if text.head? = some '[' then ofBracketed? text else ofDomain? text

/-- The signs that a name cannot hold. -/
def nameSigns : List Char := "\x00\t\n\r #/:<>?@[\\]^|".toList

/-- Reads the host of another scheme. -/
def ofName? (text : List Char) : Option Host :=
  if text.head? = some '[' then ofBracketed? text
  else if text.any nameSigns.contains then none
  else some (name (percentEncoded [] text))

end Host

end Locution.Address
