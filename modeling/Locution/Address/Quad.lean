import Locution.Address.Percent
import Locution.Text.Cut

/-!
# Numbers of four bytes

A host can be a number of four bytes, written as up to four numbers with dots between them. Each
number stands for one byte but the last, which stands for all that are left. A number can be written
in base ten, eight or sixteen. A host whose last part is a number must be such a number.
-/

namespace Locution.Address

open Text

/-- The value of digits in a base. -/
def digitsValue? (base : Nat) (digits : List Char) : Option Nat :=
  digits.foldlM (fun value c => do
    let digit ← hexValue? c
    if digit < base then some (value * base + digit) else none) 0

/-- The value of a number in base sixteen after `0x`, in base eight after `0`, else in base ten. -/
def numberValue? (text : List Char) : Option Nat :=
  match text with
  | [] => none
  | '0' :: 'x' :: digits => digitsValue? 16 digits
  | '0' :: digit :: digits => digitsValue? 8 (digit :: digits)
  | digits => digitsValue? 10 digits

/-- The parts of a host between its dots, without an empty one at the end. -/
def hostParts (host : List Char) : List (List Char) :=
  let parts := cut (· == '.') host
  if parts.getLast? = some [] ∧ 1 < parts.length then parts.dropLast else parts

/-- Whether the last part of a host is a number. -/
def endsInNumber (host : List Char) : Bool :=
  (hostParts host).getLast?.any fun last =>
    !last.isEmpty && (last.all Char.isDigit || (numberValue? last).isSome)

/-- The number of four bytes that numbers stand for. -/
def quadOf? (numbers : List Nat) : Option Nat :=
  match numbers.reverse with
  | [] => none
  | last :: before =>
    if before.length < 4 ∧ before.all (· < 256) ∧ last < Nat.pow 256 (4 - before.length) then
      some (before.reverse.foldl (· * 256 + ·) 0 * Nat.pow 256 (4 - before.length) + last)
    else none

/-- Reads a number of four bytes. -/
def quad? (host : List Char) : Option Nat :=
  ((hostParts host).mapM numberValue?).bind quadOf?

/-- The four bytes of a number in base ten. -/
def quadText (quad : Nat) : List Char :=
  let bytes := [quad / 0x1000000 % 256, quad / 0x10000 % 256, quad / 0x100 % 256, quad % 256]
  ((bytes.map (Nat.toDigits 10)).intersperse ['.']).flatten

end Locution.Address
