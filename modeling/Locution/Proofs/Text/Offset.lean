import Mathlib.Data.List.Infix
import Locution.Text.Offset

/-! # Ranges of bytes that cover characters

A range of bytes covers characters when it begins and ends between characters of the text and is not
empty. The ranges that come from ranges of characters do (`covers_of_byteRange?`), and reading such
a range as characters again gives the range it came from (`charRange?_byteLength_take`).
-/

namespace Locution.Text

/-- Behind a beginning of a text the characters are counted on from its number. -/
theorem charIndex?_append_add (before rest : List Char) (offset : Nat) :
    charIndex? (before ++ rest) (byteLength before + offset) =
      (charIndex? rest offset).map (before.length + ·) := by
  induction before with
  | nil => simp [byteLength]
  | cons c before ih =>
      have bytes : byteLength (c :: before) = c.utf8Size + byteLength before := rfl
      have positive : 0 < c.utf8Size := c.utf8Size_pos
      obtain ⟨place, placeEq⟩ : ∃ place, byteLength (c :: before) + offset = place + 1 :=
        ⟨byteLength (c :: before) + offset - 1, by omega⟩
      have within : c.utf8Size ≤ place + 1 := by omega
      have left : place + 1 - c.utf8Size = byteLength before + offset := by omega
      rw [placeEq, List.cons_append, charIndex?, if_pos within, left, ih, Option.map_map]
      congr 1
      funext count
      simp only [Function.comp_apply, List.length_cons]
      omega

/-- The bytes of the first characters of a text are as many as those characters. -/
theorem charIndex?_append (before after : List Char) :
    charIndex? (before ++ after) (byteLength before) = some before.length := by
  have opening : charIndex? after 0 = some 0 := by cases after <;> rfl
  have counted := charIndex?_append_add before after 0
  rwa [opening, Nat.add_zero] at counted

/-- A place between characters is found again from its byte. -/
theorem charIndex?_byteLength_take {text : List Char} {place : Nat} (within : place ≤ text.length) :
    charIndex? text (byteLength (text.take place)) = some place := by
  have found := charIndex?_append (text.take place) (text.drop place)
  rwa [List.take_append_drop, List.length_take_of_le within] at found

/-- More characters take more bytes, or as many. -/
theorem byteLength_take_mono (text : List Char) {first last : Nat} (ordered : first ≤ last) :
    byteLength (text.take first) ≤ byteLength (text.take last) := by
  obtain ⟨between, split⟩ := List.take_prefix_take_left (l := text) ordered
  rw [← split, byteLength_append]
  exact Nat.le_add_right _ _

/-- Of two texts that begin a third one, the one with fewer bytes begins the other one. -/
theorem exists_append_of_byteLength_le {first second rest later : List Char}
    (split : first ++ rest = second ++ later)
    (fewer : byteLength first ≤ byteLength second) :
    ∃ between, second = first ++ between ∧ rest = between ++ later := by
  rcases List.append_eq_append_iff.mp split with ⟨between, rfl, rfl⟩ | ⟨between, rfl, rfl⟩
  · exact ⟨between, rfl, rfl⟩
  · cases between with
    | nil => exact ⟨[], by simp⟩
    | cons c between =>
        have bytes : byteLength (c :: between) = c.utf8Size + byteLength between := rfl
        have positive : 0 < c.utf8Size := c.utf8Size_pos
        rw [byteLength_append, bytes] at fewer
        omega

/-- A range of characters is found again from its bytes. -/
theorem charRange?_byteLength_take {text : List Char} {first last : Nat} (ordered : first ≤ last)
    (within : last ≤ text.length) :
    charRange? text (byteLength (text.take first)) (byteLength (text.take last)) =
      some (first, last) := by
  simp only [charRange?, byteLength_take_mono text ordered, ↓reduceIte,
    charIndex?_byteLength_take (ordered.trans within), charIndex?_byteLength_take within]

/-- Whether a range of bytes begins and ends between characters of a text, and takes in some. -/
def Covers (text : List Char) (start stop : Nat) : Prop :=
  ∃ first last, first < last ∧ last ≤ text.length ∧
    start = byteLength (text.take first) ∧ stop = byteLength (text.take last)

/-- The bytes of a range of characters cover them. -/
theorem covers_of_byteRange? {text : List Char} {first last start stop : Nat}
    (found : byteRange? text first last = some (start, stop)) : Covers text start stop := by
  unfold byteRange? at found
  split at found
  · rename_i inside
    obtain ⟨rfl, rfl⟩ := Prod.mk.inj (Option.some.inj found)
    exact ⟨first, last, inside.1, inside.2, rfl, rfl⟩
  · cases found

end Locution.Text
