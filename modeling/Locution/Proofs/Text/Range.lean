import Locution.Proofs.Text.Offset

/-! # Ranges of bytes and ranges of characters

A range of characters and the range of bytes that it covers determine each other
(`byteRange?_inverse`). The bytes of the one are those that the characters have in UTF-8
(`octets_slice`). Both directions can be computed in numbers of a machine word: one walk over the
places between the characters finds the bytes (`walkByteRange?`), two counts find the characters
(`walkCharRange?`), and no sum or difference on the way leaves the word (`walkByteRange?_eq`,
`walkCharRange?_eq`).
-/

namespace Locution.Text

/-- The bytes of a text in UTF-8. -/
def octets (text : List Char) : List UInt8 :=
  text.flatMap String.utf8EncodeChar

theorem octets_append (a b : List Char) : octets (a ++ b) = octets a ++ octets b :=
  List.flatMap_append

theorem length_octets (text : List Char) : (octets text).length = byteLength text := by
  induction text with
  | nil => rfl
  | cons c text ih =>
      have split : octets (c :: text) = String.utf8EncodeChar c ++ octets text := rfl
      rw [split, List.length_append, String.length_utf8EncodeChar, ih]
      rfl

/-- Whether a place among the bytes of a text lies between two characters, or at an end. -/
def IsBoundary (text : List Char) (place : Nat) : Prop :=
  ∃ before after, text = before ++ after ∧ place = byteLength before

/-- Behind some characters of a text is a place between characters. -/
theorem isBoundary_byteLength_take (text : List Char) (count : Nat) :
    IsBoundary text (byteLength (text.take count)) :=
  ⟨text.take count, text.drop count, (List.take_append_drop _ _).symm, rfl⟩

/-- A text has no more characters than bytes. -/
theorem length_le_byteLength (text : List Char) : text.length ≤ byteLength text := by
  induction text with
  | nil => exact Nat.le_refl _
  | cons c text ih =>
      have positive : 0 < c.utf8Size := c.utf8Size_pos
      have bytes : byteLength (c :: text) = c.utf8Size + byteLength text := rfl
      rw [List.length_cons, bytes]
      omega

theorem slice_append (before inside after : List Char) :
    slice (before ++ inside ++ after) before.length (before.length + inside.length) = inside := by
  rw [slice, List.append_assoc, List.drop_left, Nat.add_sub_cancel_left, List.take_left]

/-- A range of characters parts the text into what stands before it, its characters, and what stands
behind it. -/
theorem exists_parts {text : List Char} {start stop : Nat} (ordered : start ≤ stop)
    (within : stop ≤ text.length) :
    ∃ before inside after, text = before ++ inside ++ after ∧ before.length = start ∧
      before.length + inside.length = stop := by
  have first : (text.take start).length = start := List.length_take_of_le (ordered.trans within)
  have last : (slice text start stop).length = stop - start := by
    rw [slice, List.length_take, List.length_drop]
    omega
  refine ⟨text.take start, slice text start stop, text.drop stop, ?_, first, by omega⟩
  have behind : text.drop stop = (text.drop start).drop (stop - start) := by
    rw [List.drop_drop, Nat.add_sub_cancel' ordered]
  rw [List.append_assoc, slice, behind, List.take_append_drop, List.take_append_drop]

/-- The parts of a text are taken from its beginning. -/
theorem take_parts (before inside after : List Char) :
    (before ++ inside ++ after).take before.length = before ∧
      (before ++ inside ++ after).take (before.length + inside.length) = before ++ inside := by
  rw [← List.length_append, List.take_left, List.append_assoc, List.take_left]
  exact ⟨rfl, rfl⟩

/-- The bytes of a range of characters are the bytes of its text. -/
theorem octets_slice {text : List Char} {start stop : Nat} (ordered : start ≤ stop)
    (within : stop ≤ text.length) :
    ((octets text).take (byteLength (text.take stop))).drop (byteLength (text.take start)) =
      octets (slice text start stop) := by
  obtain ⟨before, inside, after, rfl, rfl, rfl⟩ := exists_parts ordered within
  have upTo : (octets (before ++ inside ++ after)).take (byteLength (before ++ inside)) =
      octets before ++ octets inside := by
    rw [← length_octets, octets_append (before ++ inside), List.take_left, octets_append]
  rw [(take_parts before inside after).1, (take_parts before inside after).2, slice_append, upTo,
    ← length_octets, List.drop_left]

/-- More characters of a text take more bytes. -/
theorem byteLength_take_lt {text : List Char} {start stop : Nat} (ordered : start < stop)
    (within : stop ≤ text.length) :
    byteLength (text.take start) < byteLength (text.take stop) := by
  obtain ⟨before, inside, after, rfl, rfl, rfl⟩ := exists_parts ordered.le within
  rw [(take_parts before inside after).1, (take_parts before inside after).2, byteLength_append]
  have filled := length_le_byteLength inside
  omega

/-- There is no range of bytes for characters that are none, or not all there. -/
theorem byteRange?_eq_none_iff {text : List Char} {start stop : Nat} :
    byteRange? text start stop = none ↔ stop ≤ start ∨ text.length < stop := by
  rw [byteRange?, ite_eq_right_iff]
  constructor
  · intro outside
    by_contra inside
    exact Option.some_ne_none _ (outside (by omega))
  · rintro outside ⟨ordered, within⟩
    omega

/-- The characters of a range that lies in the text have a range of bytes. -/
theorem byteRange?_of_within {text : List Char} {start stop : Nat} (ordered : start < stop)
    (within : stop ≤ text.length) :
    byteRange? text start stop =
      some (byteLength (text.take start), byteLength (text.take stop)) :=
  if_pos ⟨ordered, within⟩

/-- Places between characters that follow each other cover characters. -/
theorem exists_range_of_isBoundary {text : List Char} {first last : Nat} (ordered : first < last)
    (opens : IsBoundary text first) (closes : IsBoundary text last) :
    ∃ start stop, start < stop ∧ stop ≤ text.length ∧ first = byteLength (text.take start) ∧
      last = byteLength (text.take stop) := by
  obtain ⟨before, rest, rfl, rfl⟩ := opens
  obtain ⟨upTo, after, split, rfl⟩ := closes
  obtain ⟨inside, rfl, rfl⟩ := exists_append_of_byteLength_le split ordered.le
  rw [byteLength_append] at ordered
  have filled : 0 < inside.length := by
    cases inside with
    | nil => exact absurd ordered (Nat.lt_irrefl _)
    | cons => exact Nat.succ_pos _
  refine ⟨before.length, before.length + inside.length, by omega, ?_, ?_, ?_⟩
  · rw [← List.append_assoc, List.length_append, List.length_append]
    omega
  · rw [List.take_left]
  · rw [← List.append_assoc, (take_parts before inside after).2]

/-- The numbers below this one are those of a machine word. -/
def wordLimit : Nat := UInt64.size

/-- A sum, unless it leaves the machine word. -/
def addWord? (a b : Nat) : Option Nat :=
  if a + b < wordLimit then some (a + b) else none

/-- A difference, unless it leaves the machine word. -/
def subWord? (a b : Nat) : Option Nat :=
  if b ≤ a then some (a - b) else none

/-- The places of a text from a byte on, one before each character and one at the end. -/
def places? (place : Nat) : List Char → Option (List Nat)
  | [] => some [place]
  | c :: rest => do
    let next ← addWord? place c.utf8Size
    let later ← places? next rest
    return place :: later

/-- Leaves out a number of places and takes the next one; a walk goes on with those behind it. -/
def nextPlace? (count : Nat) (places : List Nat) : Option (Nat × List Nat) :=
  match places.drop count with
  | [] => none
  | place :: later => some (place, later)

/-- The bytes that a range of characters covers, found in one walk over the places of the text. The
walk goes to the first character of the range and, from behind that place, on to its end. Nothing
is found when a number leaves the machine word. -/
def walkByteRange? (text : List Char) (start stop : Nat) : Option (Option (Nat × Nat)) :=
  if stop ≤ start then some none
  else do
    let places ← places? 0 text
    let length ← subWord? stop start
    let between ← subWord? length 1
    return do
      let (first, later) ← nextPlace? start places
      let (last, _) ← nextPlace? between later
      return (first, last)

/-- The characters before a place among the bytes of a text and those behind it. -/
def cutAt? (text : List Char) (place : Nat) : Option (List Char × List Char) :=
  (charIndex? text place).map fun count => (text.take count, text.drop count)

/-- The characters that a range of bytes covers, found by counting the characters before the range
and those inside it. Nothing is found when a number leaves the machine word, or a place does not
lie between characters. -/
def walkCharRange? (text : List Char) (start stop : Nat) : Option (Nat × Nat) := do
  let (before, rest) ← cutAt? text start
  let length ← subWord? stop start
  let (inside, _) ← cutAt? rest length
  let last ← addWord? before.length inside.length
  return (before.length, last)

/-- The places of a text that fits a machine word are the numbers of bytes before them. -/
theorem places?_eq {text : List Char} {place : Nat} (held : place + byteLength text < wordLimit) :
    places? place text =
      some ((List.range (text.length + 1)).map fun count =>
        place + byteLength (text.take count)) := by
  induction text generalizing place with
  | nil => rfl
  | cons c rest ih =>
      have bytes : byteLength (c :: rest) = c.utf8Size + byteLength rest := rfl
      rw [bytes, ← Nat.add_assoc] at held
      have next : addWord? place c.utf8Size = some (place + c.utf8Size) :=
        if_pos (Nat.lt_of_le_of_lt (Nat.le_add_right _ _) held)
      have later (count : Nat) : place + byteLength ((c :: rest).take (count + 1)) =
          place + c.utf8Size + byteLength (rest.take count) := by
        rw [List.take_succ_cons, Nat.add_assoc]
        rfl
      rw [places?, next, List.length_cons, List.range_succ_eq_map, List.map_cons, List.map_map]
      simp only [Option.bind_eq_bind, Option.bind_some, ih held, Option.pure_def,
        Function.comp_def, Nat.succ_eq_add_one, later, List.take_zero]
      rfl

/-- The places between characters are listed by the number of characters before them. -/
theorem getElem?_places (text : List Char) (count : Nat) :
    ((List.range (text.length + 1)).map fun count => byteLength (text.take count))[count]? =
      if count ≤ text.length then some (byteLength (text.take count)) else none := by
  rw [List.getElem?_map]
  split
  · rw [List.getElem?_range (by omega), Option.map_some]
  · rw [List.getElem?_eq_none (by rw [List.length_range]; omega), Option.map_none]

/-- Taking the next place skips a number of places and leaves those behind. -/
theorem nextPlace?_eq {places : List Nat} {count : Nat} :
    nextPlace? count places = places[count]?.map fun place => (place, places.drop (count + 1)) := by
  rw [nextPlace?]
  cases ahead : places.drop count with
  | nil =>
      rw [List.getElem?_eq_none (List.drop_eq_nil_iff.mp ahead), Option.map_none]
  | cons place later =>
      have here : places[count]? = some place := by
        rw [← Nat.add_zero count, ← List.getElem?_drop, ahead, List.getElem?_cons_zero]
      rw [here, Option.map_some, ← List.drop_drop, ahead, List.drop_succ_cons, List.drop_zero]

/-- One walk finds the bytes of a range of characters, and no number leaves the machine word. -/
theorem walkByteRange?_eq {text : List Char} (held : byteLength text < wordLimit)
    (start stop : Nat) : walkByteRange? text start stop = some (byteRange? text start stop) := by
  by_cases ordered : start < stop
  · obtain ⟨between, rfl⟩ : ∃ between, stop = start + 1 + between :=
      ⟨stop - start - 1, by omega⟩
    have within : 0 + byteLength text < wordLimit := by rwa [Nat.zero_add]
    have walked := places?_eq within
    have length : subWord? (start + 1 + between) start = some (between + 1) := by
      rw [subWord?, if_pos (by omega)]
      congr 1
      omega
    have left : subWord? (between + 1) 1 = some between := rfl
    rw [walkByteRange?, if_neg (by omega), walked, length, Option.bind_eq_bind, Option.bind_some,
      Option.bind_eq_bind, Option.bind_some, left, byteRange?]
    simp only [Option.bind_eq_bind, Option.bind_some, Option.pure_def, nextPlace?_eq,
      Nat.zero_add, getElem?_places, ordered, true_and]
    by_cases first : start ≤ text.length
    · simp only [first, ↓reduceIte, Option.map_some, Option.bind_some, List.getElem?_drop,
        getElem?_places]
      split <;> rfl
    · have beyond : ¬ start + 1 + between ≤ text.length := by omega
      simp only [first, beyond, ↓reduceIte, Option.map_none, Option.bind_none]
  · have reversed : byteRange? text start stop = none := byteRange?_eq_none_iff.mpr (by omega)
    rw [walkByteRange?, if_pos (by omega), reversed]

/-- A byte at which a character begins parts the text there. -/
theorem exists_append_of_charIndex? {text : List Char} {place count : Nat}
    (found : charIndex? text place = some count) :
    ∃ before after, text = before ++ after ∧ place = byteLength before ∧ before.length = count := by
  fun_induction charIndex? text place generalizing count with
  | case1 text =>
      obtain rfl := Option.some.inj found
      exact ⟨[], text, rfl, rfl, rfl⟩
  | case2 => cases found
  | case3 c text offset within ih =>
      obtain ⟨others, counted, rfl⟩ := Option.map_eq_some_iff.mp found
      obtain ⟨before, after, rfl, left, rfl⟩ := ih counted
      refine ⟨c :: before, after, rfl, ?_, rfl⟩
      have bytes : byteLength (c :: before) = c.utf8Size + byteLength before := rfl
      omega
  | case4 => cases found

/-- A text is cut at the byte where two of its parts meet. -/
theorem cutAt?_append (before after : List Char) :
    cutAt? (before ++ after) (byteLength before) = some (before, after) := by
  rw [cutAt?, charIndex?_append, Option.map_some, List.take_left, List.drop_left]

/-- Two counts find the characters of a range of bytes, and no number leaves the machine word. -/
theorem walkCharRange?_eq {text : List Char} (held : byteLength text < wordLimit)
    (start stop : Nat) : walkCharRange? text start stop = charRange? text start stop := by
  rw [walkCharRange?, charRange?, cutAt?]
  cases opens : charIndex? text start with
  | none => simp
  | some count =>
      obtain ⟨before, rest, rfl, rfl, rfl⟩ := exists_append_of_charIndex? opens
      by_cases ordered : byteLength before ≤ stop
      · obtain ⟨length, rfl⟩ := Nat.exists_eq_add_of_le ordered
        have difference : subWord? (byteLength before + length) (byteLength before) =
            some length := by
          rw [subWord?, if_pos ordered, Nat.add_sub_cancel_left]
        simp only [Option.map_some, Option.bind_eq_bind, Option.bind_some, List.take_left,
          List.drop_left, difference, ordered, ↓reduceIte, charIndex?_append_add, cutAt?]
        cases closes : charIndex? rest length with
        | none => simp
        | some inner =>
            obtain ⟨inside, after, rfl, _, rfl⟩ := exists_append_of_charIndex? closes
            have fits : before.length + inside.length < wordLimit := by
              have counted := length_le_byteLength (before ++ (inside ++ after))
              simp only [List.length_append] at counted
              omega
            simp [addWord?, fits]
      · have difference : subWord? stop (byteLength before) = none := if_neg ordered
        simp [difference, ordered]

/-- **Ranges of characters and ranges of bytes are inverse.** A range of characters covers no bytes
exactly when it is empty, reversed or longer than the text. Otherwise it covers bytes from one place
between characters to a later one, which are the bytes of its characters, and reading them as
characters gives the range again. Two places between characters, one behind the other, are the range
of characters between them. In a text that fits a machine word, no number on the way leaves the
word. -/
theorem byteRange?_inverse (text : List Char) :
    (∀ start stop, byteRange? text start stop = none ↔ stop ≤ start ∨ text.length < stop) ∧
    (∀ start stop, ¬ (stop ≤ start ∨ text.length < stop) →
      ∃ first last, byteRange? text start stop = some (first, last) ∧ first < last ∧
        IsBoundary text first ∧ IsBoundary text last ∧
        ((octets text).take last).drop first = octets (slice text start stop) ∧
        charRange? text first last = some (start, stop)) ∧
    (∀ first last, first < last → IsBoundary text first → IsBoundary text last →
      ∃ start stop, charRange? text first last = some (start, stop) ∧
        byteRange? text start stop = some (first, last)) ∧
    (byteLength text < wordLimit → ∀ start stop,
      walkByteRange? text start stop = some (byteRange? text start stop) ∧
        walkCharRange? text start stop = charRange? text start stop) := by
  refine ⟨fun start stop => byteRange?_eq_none_iff, fun start stop inside => ?_,
    fun first last ordered opens closes => ?_, fun held start stop => ?_⟩
  · have ordered : start < stop := by omega
    have within : stop ≤ text.length := by omega
    exact ⟨_, _, byteRange?_of_within ordered within, byteLength_take_lt ordered within,
      isBoundary_byteLength_take _ _, isBoundary_byteLength_take _ _,
      octets_slice ordered.le within, charRange?_byteLength_take ordered.le within⟩
  · obtain ⟨start, stop, follows, within, rfl, rfl⟩ :=
      exists_range_of_isBoundary ordered opens closes
    exact ⟨start, stop, charRange?_byteLength_take follows.le within,
      byteRange?_of_within follows within⟩
  · exact ⟨walkByteRange?_eq held start stop, walkCharRange?_eq held start stop⟩

/-- A word whose last letter takes two bytes. -/
theorem byteRange?_inverse_cafe :
    (∃ first last, byteRange? "Café".toList 2 4 = some (first, last) ∧
      charRange? "Café".toList first last = some (2, 4)) ∧
    (∃ start stop, charRange? "Café".toList 3 5 = some (start, stop) ∧
      byteRange? "Café".toList start stop = some (3, 5)) ∧
    walkByteRange? "Café".toList 2 4 = some (some (2, 5)) := by
  obtain ⟨_, covered, read, walked⟩ := byteRange?_inverse "Café".toList
  obtain ⟨first, last, found, _, _, _, _, again⟩ := covered 2 4 (by decide)
  have opens : IsBoundary "Café".toList 3 := ⟨"Caf".toList, ['é'], by decide, by decide⟩
  have closes : IsBoundary "Café".toList 5 := ⟨"Café".toList, [], by decide, by decide⟩
  refine ⟨⟨first, last, found, again⟩, read 3 5 (by decide) opens closes, ?_⟩
  exact (walked (by decide) 2 4).1

end Locution.Text
