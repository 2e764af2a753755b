import Locution.Json.Reader
import Locution.Number.Decimal

/-!
# Numbers in JSON texts

Whole numbers of up to 64 bits are read exactly. Any other number becomes a binary number of 64
bits: the leading digits that fit into 64 bits are rounded first, and the result is multiplied or
divided by a power of ten and rounded again. Further digits before the point only count; further
digits after it are dropped. A number beyond the range of the format is a fault.
-/

namespace Locution.Json

/-- A number as it was written. -/
inductive Number where
  /-- A whole number without a sign, less than 2 ^ 64. -/
  | natural (value : Nat)
  /-- The negative of a whole number from 1 to 2 ^ 63. -/
  | negative (magnitude : Nat)
  /-- Any other number, rounded to a format. -/
  | real (format : BinaryFormat) (minus : Bool) (magnitude : Binary)

namespace Number

/-- A number as it is written. -/
def written : Number → List Char
  | .natural value => Decimal.digitsOf value
  | .negative magnitude => '-' :: Decimal.digitsOf magnitude
  | .real format minus magnitude =>
    if minus then '-' :: magnitude.text format else magnitude.text format

/-- What a message calls a number that is not wanted. -/
def found : Number → Found
  | .natural value => .integer value
  | .negative magnitude => .integer (-(magnitude : Int))
  | .real format minus magnitude => .real (Number.real format minus magnitude).written

end Number

/-- The value of a decimal digit. -/
def digitValue (c : Char) : Nat :=
  c.toNat - '0'.toNat

/-- Appends digits to a number while it stays below 2 ^ 64, and gives back the digits that are left
over. -/
def gather : Nat → List Char → Nat × List Char
  | value, [] => (value, [])
  | value, c :: digits =>
    if value * 10 + digitValue c < Nat.pow 2 64 then gather (value * 10 + digitValue c) digits
    else (value, c :: digits)

/-- A power of ten as a binary number of 64 bits. -/
def powerOfTen? (exponent : Nat) : Option Binary :=
  Binary.nearest? doubleFormat (Nat.pow 10 exponent) 1

/-- A number times a power of ten. Numbers that are far too small are divided in several steps, by
at most 10 ^ 308 each. There is none when the result is out of range. -/
def timesPowerOfTen? (x : Binary) (exponent : Int) : Option Binary :=
  if exponent.natAbs ≤ 308 then do
    let power ← powerOfTen? exponent.natAbs
    if 0 ≤ exponent then Binary.scale? doubleFormat x power ⟨1, 0⟩
    else Binary.scale? doubleFormat x ⟨1, 0⟩ power
  else if x.mantissa == 0 then some x
  else if 0 ≤ exponent then none
  else do
    let power ← powerOfTen? 308
    let smaller ← Binary.scale? doubleFormat x ⟨1, 0⟩ power
    timesPowerOfTen? smaller (exponent + 308)
termination_by exponent.natAbs
decreasing_by omega

/-- The number with the given leading digits and power of ten; `rest` is the text after it. -/
def realNumber (minus : Bool) (value : Nat) (exponent : Int) (rest : List Char) :
    Except Fault Number :=
  match (Binary.nearest? doubleFormat value 1).bind (timesPowerOfTen? · exponent) with
  | some magnitude => .ok (.real doubleFormat minus magnitude)
  | none => .error (faultBefore .numberOutOfRange rest)

/-- The whole number with the given digits, exact if it fits into 64 bits. -/
def wholeNumber (minus : Bool) (value : Nat) (rest : List Char) : Except Fault Number :=
  if !minus then .ok (.natural value)
  else if 0 < value ∧ value ≤ Nat.pow 2 63 then .ok (.negative value)
  else realNumber true value 0 rest

/-- The digits at the beginning of a text. -/
def leadingDigits (text : List Char) : List Char :=
  text.takeWhile Char.isDigit

/-- A text without the digits at its beginning. -/
def afterDigits (text : List Char) : List Char :=
  text.dropWhile Char.isDigit

/-- Dropping digits makes no text longer. -/
theorem length_afterDigits_le (text : List Char) : (afterDigits text).length ≤ text.length :=
  (List.dropWhile_sublist (l := text) Char.isDigit).length_le

/-- The fault where a digit is missing. -/
def missingDigit : List Char → Fault
  | [] => faultBefore .endInValue []
  | text => faultAt .invalidNumber text

/-- Reads the digits of an exponent up to the first that makes it exceed 31 bits; the digits after
that one are given back. -/
def gatherExponent : Nat → List Char → Nat × Option (List Char)
  | value, [] => (value, none)
  | value, c :: digits =>
    if value * 10 + digitValue c < Nat.pow 2 31 then
      gatherExponent (value * 10 + digitValue c) digits
    else (value, some digits)

/-- The sign of an exponent, true for minus, and the text after it. -/
def exponentSign : List Char → Bool × List Char
  | '+' :: rest => (false, rest)
  | '-' :: rest => (true, rest)
  | rest => (false, rest)

/-- A sign makes no text longer. -/
theorem length_exponentSign_le (text : List Char) :
    (exponentSign text).2.length ≤ text.length := by
  unfold exponentSign
  split <;> simp only [List.length_cons] <;> omega

/-- Reads the exponent after its letter and completes the number. -/
def readExponent (minus : Bool) (value : Nat) (exponent : Int) (text : List Char) :
    Except Fault (Number × {rest : List Char // rest.length ≤ text.length}) :=
  let signed := exponentSign text
  let digits := leadingDigits signed.2
  let rest := afterDigits signed.2
  have within : rest.length ≤ text.length :=
    Nat.le_trans (length_afterDigits_le signed.2) (length_exponentSign_le text)
  if digits.isEmpty then .error (missingDigit signed.2)
  else
    match gatherExponent 0 digits with
    | (_, some left) =>
      if value ≠ 0 ∧ !signed.1 then .error (faultBefore .numberOutOfRange (left ++ rest))
      else .ok (.real doubleFormat minus Binary.zero, ⟨rest, within⟩)
    | (power, none) =>
      let total := if signed.1 then exponent - power else exponent + power
      (realNumber minus value total rest).map fun number => (number, ⟨rest, within⟩)

/-- Reads what may follow the digits before the exponent: the exponent, or nothing. -/
def readTail (minus : Bool) (value : Nat) (exponent : Int) :
    (text : List Char) → Except Fault (Number × {rest : List Char // rest.length ≤ text.length})
  | c :: text =>
    if c == 'e' || c == 'E' then
      (readExponent minus value exponent text).map fun (number, rest) =>
        (number, ⟨rest.1, Nat.le_succ_of_le rest.2⟩)
    else
      (realNumber minus value exponent (c :: text)).map fun number =>
        (number, ⟨c :: text, Nat.le_refl _⟩)
  | [] => (realNumber minus value exponent []).map fun number => (number, ⟨[], Nat.le_refl _⟩)

/-- Reads what follows the digits before the point. `left` holds those that did not fit. -/
def readAfterWhole (minus : Bool) (value : Nat) (left : List Char) :
    (text : List Char) → Except Fault (Number × {rest : List Char // rest.length ≤ text.length})
  | '.' :: text =>
    let places := leadingDigits text
    if places.isEmpty then .error (missingDigit text)
    else
      let (longer, dropped) := gather value places
      let exponent : Int := (left.length : Int) - (places.length - dropped.length : Nat)
      (readTail minus longer exponent (afterDigits text)).map fun (number, rest) =>
        (number, ⟨rest.1, Nat.le_succ_of_le (Nat.le_trans rest.2 (length_afterDigits_le text))⟩)
  | text =>
    if left.isEmpty && !(text.head?.any fun c => c == 'e' || c == 'E') then
      (wholeNumber minus value text).map fun number => (number, ⟨text, Nat.le_refl _⟩)
    else readTail minus value left.length text

/-- Reads the magnitude of a number. -/
def readMagnitude (minus : Bool) (text : List Char) : Except Fault (Parsed text Number) :=
  match text with
  | [] => .error (missingDigit [])
  | '0' :: rest =>
    if opensWithDigit rest then .error (faultAt .invalidNumber rest)
    else
      (readAfterWhole minus 0 [] rest).map fun (number, left) =>
        ⟨number, left.1, Nat.lt_succ_of_le left.2⟩
  | c :: rest =>
    if c.isDigit then
      let (value, left) := gather (digitValue c) (leadingDigits rest)
      (readAfterWhole minus value left (afterDigits rest)).map fun (number, left) =>
        ⟨number, left.1, Nat.lt_succ_of_le (Nat.le_trans left.2 (length_afterDigits_le rest))⟩
    else .error (missingDigit (c :: rest))

/-- Reads a number that begins with the given character, a sign or a digit. -/
def readNumber (first : Char) (text : List Char) : Except Fault (Parsed (first :: text) Number) :=
  if first == '-' then
    (readMagnitude true text).map (·.after first)
  else readMagnitude false (first :: text)

/-- Skips the exponent of a number, after its letter. -/
def skipExponent (text : List Char) :
    Except Fault {rest : List Char // rest.length ≤ text.length} :=
  let signed := exponentSign text
  if opensWithDigit signed.2 then
    .ok ⟨afterDigits signed.2,
      Nat.le_trans (length_afterDigits_le signed.2) (length_exponentSign_le text)⟩
  else .error (faultAt .invalidNumber signed.2)

/-- Skips what may follow the digits before the exponent. -/
def skipTail : (text : List Char) → Except Fault {rest : List Char // rest.length ≤ text.length}
  | c :: text =>
    if c == 'e' || c == 'E' then
      (skipExponent text).map fun rest => ⟨rest.1, Nat.le_succ_of_le rest.2⟩
    else .ok ⟨c :: text, Nat.le_refl _⟩
  | [] => .ok ⟨[], Nat.le_refl _⟩

/-- Skips what may follow the digits before the point. -/
def skipAfterWhole : (text : List Char) →
    Except Fault {rest : List Char // rest.length ≤ text.length}
  | '.' :: text =>
    if opensWithDigit text then
      (skipTail (afterDigits text)).map fun rest =>
        ⟨rest.1, Nat.le_succ_of_le (Nat.le_trans rest.2 (length_afterDigits_le text))⟩
    else .error (faultAt .invalidNumber text)
  | text => skipTail text

/-- Skips the magnitude of a number. -/
def skipMagnitude (text : List Char) : Except Fault (Parsed text Unit) :=
  match text with
  | [] => .error (faultAt .invalidNumber [])
  | '0' :: rest =>
    if opensWithDigit rest then .error (faultAt .invalidNumber rest)
    else
      (skipAfterWhole rest).map fun left => ⟨(), left.1, Nat.lt_succ_of_le left.2⟩
  | c :: rest =>
    if c.isDigit then
      (skipAfterWhole (afterDigits rest)).map fun left =>
        ⟨(), left.1, Nat.lt_succ_of_le (Nat.le_trans left.2 (length_afterDigits_le rest))⟩
    else .error (faultAt .invalidNumber (c :: rest))

/-- Skips a number that begins with the given character, a sign or a digit. -/
def skipNumber (first : Char) (text : List Char) : Except Fault (Parsed (first :: text) Unit) :=
  if first == '-' then
    (skipMagnitude text).map (·.after first)
  else skipMagnitude (first :: text)

end Locution.Json
