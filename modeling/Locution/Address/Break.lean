/-!
# Breaks in addresses

An address may be written with blanks around it, and over several lines: tabs and the ends of lines
inside it are breaks, which are left out of every part that is read.
-/

namespace Locution.Address

/-- Whether a character is a break: a tab, or what ends a line. -/
def isBreak (c : Char) : Bool :=
  c == '\t' || c == '\n' || c == '\r'

/-- A text without its breaks. -/
def unbroken (text : List Char) : List Char :=
  text.filter (!isBreak ·)

/-- An address without the blanks and control characters around it. -/
def trimmed (address : List Char) : List Char :=
  let isOuter := fun (c : Char) => c.toNat ≤ 0x20
  ((address.dropWhile isOuter).reverse.dropWhile isOuter).reverse

end Locution.Address
