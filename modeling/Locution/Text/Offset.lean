/-!
# Places in a text

A place in a text is counted in characters or in bytes of its UTF-8 form. Ranges of characters are
turned into ranges of bytes and back; both directions refuse ranges that are reversed or leave the
text, and byte offsets inside a character.
-/

namespace Locution.Text

/-- The number of bytes of a text. -/
def byteLength (text : List Char) : Nat :=
  text.foldr (fun c bytes => c.utf8Size + bytes) 0

/-- The number of characters that the first `offset` bytes make up. There is none when the offset
lies beyond the end or inside a character. -/
def charIndex? : List Char → Nat → Option Nat
  | _, 0 => some 0
  | [], _ + 1 => none
  | c :: text, offset + 1 =>
    if c.utf8Size ≤ offset + 1 then (charIndex? text (offset + 1 - c.utf8Size)).map (· + 1)
    else none

/-- The characters that a range of bytes covers, as a range of characters. -/
def charRange? (text : List Char) (start stop : Nat) : Option (Nat × Nat) :=
  if start ≤ stop then
    match charIndex? text start, charIndex? text stop with
    | some first, some last => some (first, last)
    | _, _ => none
  else none

/-- The bytes that a range of characters covers. An empty range covers none. -/
def byteRange? (text : List Char) (start stop : Nat) : Option (Nat × Nat) :=
  if start < stop ∧ stop ≤ text.length then
    some (byteLength (text.take start), byteLength (text.take stop))
  else none

/-- The characters of a text from one place up to another. -/
def slice (text : List Char) (start stop : Nat) : List Char :=
  (text.drop start).take (stop - start)

/-- The bytes of texts add up. -/
theorem byteLength_append (a b : List Char) :
    byteLength (a ++ b) = byteLength a + byteLength b := by
  induction a with
  | nil => exact (Nat.zero_add _).symm
  | cons c rest ih =>
    simp only [byteLength, List.cons_append, List.foldr_cons] at ih ⊢
    rw [ih, Nat.add_assoc]

end Locution.Text
