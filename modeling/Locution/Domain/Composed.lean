import Locution.Domain.CombiningRuns
import Locution.Domain.CompositePairs

/-!
# Composed text

The same letter with the same marks can be written in several ways: as one character or as several,
with its marks in different orders. The composed form of a text is one of these ways. It is found
in three steps: every composite is taken apart, marks are put in the order of their classes, and
letters are put together with the marks, or letters, that follow.
-/

namespace Locution.Domain

/-- The class of a code point among runs of marks; zero outside of them. -/
def classAmong : List (Nat × Nat × Nat) → Nat → Nat
  | [], _ => 0
  | (first, last, value) :: runs, code =>
    if code < first then 0 else if code ≤ last then value else classAmong runs code

/-- The class of a mark; zero for a character that is no mark or keeps its place. -/
def combiningClass (c : Char) : Nat :=
  classAmong combiningRuns c.toNat

/-- How many syllables of Hangul there are. -/
def syllableCount : Nat :=
  19 * 21 * 28

/-- The letters of a syllable of Hangul: a leading one, a vowel, and perhaps a trailing one. -/
def syllableLetters (index : Nat) : List Char :=
  let trailing := index % 28
  [Char.ofNat (0x1100 + index / 588), Char.ofNat (0x1161 + index % 588 / 28)] ++
    if trailing = 0 then [] else [Char.ofNat (0x11A7 + trailing)]

/-- A character taken apart once. No character below U+00C0 is a composite. -/
def parts (c : Char) : List Char :=
  if c.toNat < 0xC0 then [c]
  else if 0xAC00 ≤ c.toNat ∧ c.toNat < 0xAC00 + syllableCount then
    syllableLetters (c.toNat - 0xAC00)
  else
    match compositePairs.lookup c.toNat with
    | some (first, second) => [Char.ofNat first, Char.ofNat second]
    | none => [c]

/-- A text with every composite taken apart. Composites are nested at most three deep. -/
def apart (text : List Char) : List Char :=
  Nat.repeat (List.flatMap parts) 3 text

/-- Puts a character at the end of a text written backwards, but a mark before the marks of higher
classes there. -/
def place (c : Char) : List Char → List Char
  | [] => [c]
  | last :: before =>
    if 0 < combiningClass c ∧ combiningClass c < combiningClass last then last :: place c before
    else c :: last :: before

/-- A text with its marks in the order of their classes. -/
def ordered (text : List Char) : List Char :=
  (text.foldl (fun placed c => place c placed) []).reverse

/-- The syllable of Hangul made of a leading letter and a vowel, or of a syllable without a trailing
letter and one. -/
def syllable? (first second : Nat) : Option Nat :=
  if 0x1100 ≤ first ∧ first < 0x1100 + 19 ∧ 0x1161 ≤ second ∧ second < 0x1161 + 21 then
    some (0xAC00 + ((first - 0x1100) * 21 + (second - 0x1161)) * 28)
  else if 0xAC00 ≤ first ∧ first < 0xAC00 + syllableCount ∧ (first - 0xAC00) % 28 = 0 ∧
      0x11A7 < second ∧ second < 0x11A7 + 28 then
    some (first + (second - 0x11A7))
  else none

/-- The composite of two characters. No character below U+0300 joins the one before it. -/
def composite? (first second : Char) : Option Char :=
  if second.toNat < 0x300 then none
  else
    match syllable? first.toNat second.toNat with
    | some code => some (Char.ofNat code)
    | none =>
      (compositePairs.find? fun pair => pair.2 == (first.toNat, second.toNat)).map
        (Char.ofNat ·.1)

/-- A text on the way to its composed form: the last letter, the marks on it that were not put
together with it, and what stands before it. The marks and the text before are written
backwards. -/
structure Composing where
  before : List Char
  letter : Option Char
  marks : List Char

namespace Composing

/-- What has been composed, written backwards. -/
def written (composing : Composing) : List Char :=
  composing.marks ++ composing.letter.toList ++ composing.before

/-- The composite of the last letter with a character, unless a mark stands between them that holds
them apart: one of the same or of a higher class. -/
def joined? (composing : Composing) (c : Char) : Option Char := do
  let letter ← composing.letter
  match composing.marks with
  | [] => composite? letter c
  | mark :: _ => if combiningClass mark < combiningClass c then composite? letter c else none

/-- Takes a character more. -/
def take (composing : Composing) (c : Char) : Composing :=
  match composing.joined? c with
  | some letter => { composing with letter := some letter }
  | none =>
    if combiningClass c = 0 then ⟨composing.written, some c, []⟩
    else { composing with marks := c :: composing.marks }

end Composing

/-- The composed form of a text. -/
def composed (text : List Char) : List Char :=
  ((ordered (apart text)).foldl Composing.take ⟨[], none, []⟩).written.reverse

end Locution.Domain
