import Locution.Address.Quad

/-!
# Numbers of eight groups

A host between brackets is a number of eight groups of sixteen bits, in base sixteen with colons
between them. Two colons together stand for as many groups of zero as are missing, at least one;
the last two groups can be written as four bytes.
-/

namespace Locution.Address

open Text

/-- The value of a group. -/
def group? (text : List Char) : Option Nat :=
  if text.isEmpty ∨ 4 < text.length then none else digitsValue? 16 text

/-- The value of a byte in base ten, without leading zeros. -/
def byte? (text : List Char) : Option Nat := do
  let value ← digitsValue? 10 text
  if Nat.toDigits 10 value = text ∧ value < 256 then some value else none

/-- The two groups that four bytes stand for. -/
def pairOfGroups? (text : List Char) : Option (List Nat) :=
  match (cut (· == '.') text).mapM byte? with
  | some [a, b, c, d] => some [a * 256 + b, c * 256 + d]
  | _ => none

/-- Groups of which the last one may be written as four bytes. -/
def finalGroups? : List (List Char) → Option (List Nat)
  | [] => some []
  | [last] => ((group? last).map fun value => [value]) <|> pairOfGroups? last
  | text :: texts => do
    let value ← group? text
    let values ← finalGroups? texts
    some (value :: values)

/-- A text cut at the first two colons that stand together. -/
def cutAtGap : List Char → Option (List Char × List Char)
  | ':' :: ':' :: rest => some ([], rest)
  | c :: rest => (cutAtGap rest).map fun (before, after) => (c :: before, after)
  | [] => none

/-- The texts of groups between colons; there are none in an empty text. -/
def groupTexts (text : List Char) : List (List Char) :=
  if text.isEmpty then [] else cut (· == ':') text

/-- Reads a number of eight groups. -/
def groups? (text : List Char) : Option (List Nat) :=
  match cutAtGap text with
  | none => do
    let groups ← finalGroups? (groupTexts text)
    if groups.length = 8 then some groups else none
  | some (before, after) => do
    let before ← (groupTexts before).mapM group?
    let after ← finalGroups? (groupTexts after)
    if before.length + after.length < 8 then
      some (before ++ List.replicate (8 - before.length - after.length) 0 ++ after)
    else none

/-- How many zeros a list begins with. -/
def leadingZeros (groups : List Nat) : Nat :=
  (groups.takeWhile (· == 0)).length

/-- The first of the longest series of zeros: where it begins, and its length. -/
def longestGap : List Nat → Nat × Nat
  | [] => (0, 0)
  | group :: groups =>
    let (start, length) := longestGap groups
    let here := leadingZeros (group :: groups)
    if length ≤ here then (0, here) else (start + 1, length)

/-- Groups in base sixteen with colons between them. -/
def joinedGroups (groups : List Nat) : List Char :=
  ((groups.map (Nat.toDigits 16)).intersperse [':']).flatten

/-- Eight groups, with two colons for the first of the longest series of two or more zeros. -/
def groupsText (groups : List Nat) : List Char :=
  let (start, length) := longestGap groups
  if length < 2 then joinedGroups groups
  else joinedGroups (groups.take start) ++ [':', ':'] ++ joinedGroups (groups.drop (start + length))

end Locution.Address
