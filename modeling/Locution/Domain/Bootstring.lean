/-!
# Texts in plain characters

A text can be written with letters, digits and hyphens alone. The plain characters come first, then
a hyphen, then where the others belong: they are put in in the order of their numbers, and each is
told by how many places and numbers further it is than the one before. These distances are written
in base thirty-six, each with a last digit that is small, where small depends on the position and
on a bias that follows the distances already written.
-/

namespace Locution.Domain.Bootstring

/-- The least digit that is not the last one at a position. -/
def threshold (bias position : Nat) : Nat :=
  min 26 (max 1 (36 * (position + 1) - bias))

/-- A threshold is at least one. -/
theorem threshold_pos (bias position : Nat) : 0 < threshold bias position := by
  unfold threshold
  omega

/-- Divides a distance until it is small, and counts how often. -/
def shrunk (distance : Nat) : Nat × Nat :=
  if 455 < distance then
    let (rest, times) := shrunk (distance / 35)
    (rest, times + 1)
  else (distance, 0)
termination_by distance
decreasing_by exact Nat.div_lt_self (by omega) (by omega)

/-- The bias after a distance, when so many characters have been placed. -/
def adapted (distance count : Nat) (isFirst : Bool) : Nat :=
  let halved := if isFirst then distance / 700 else distance / 2
  let (rest, times) := shrunk (halved + halved / count)
  36 * times + 36 * rest / (rest + 38)

/-- The digit of a value below thirty-six. -/
def digit (value : Nat) : Char :=
  if value < 26 then Char.ofNat ('a'.toNat + value) else Char.ofNat ('0'.toNat + (value - 26))

/-- The value of a digit. -/
def value? (c : Char) : Option Nat :=
  if 'a' ≤ c ∧ c ≤ 'z' then some (c.toNat - 'a'.toNat)
  else if '0' ≤ c ∧ c ≤ '9' then some (c.toNat - '0'.toNat + 26)
  else none

/-- The digits of a distance from a position on. -/
def digits (bias position distance : Nat) : List Char :=
  let least := threshold bias position
  if distance < least then [digit distance]
  else
    digit (least + (distance - least) % (36 - least)) ::
      digits bias (position + 1) ((distance - least) / (36 - least))
termination_by distance
decreasing_by
  have := threshold_pos bias position
  exact Nat.lt_of_le_of_lt (Nat.div_le_self _ _) (by omega)

/-- A text on the way to plain characters: how many characters are placed, how many numbers and
places have been passed since the last one, the bias, and the digits, backwards. -/
structure Writing where
  placed : Nat
  distance : Nat
  bias : Nat
  isFirst : Bool
  digits : List Char

/-- Passes or places a character of the text, when the characters with a number are being placed. -/
def Writing.meet (code : Nat) (writing : Writing) (c : Char) : Writing :=
  if c.toNat < code then { writing with distance := writing.distance + 1 }
  else if c.toNat = code then
    { placed := writing.placed + 1
      distance := 0
      bias := adapted writing.distance (writing.placed + 1) writing.isFirst
      isFirst := false
      digits := (Bootstring.digits writing.bias 0 writing.distance).reverse ++ writing.digits }
  else writing

/-- Places the characters with the numbers that are left, the least first; numbers below `next` are
done. -/
def Writing.placeAll (text : List Char) (next : Nat) : List Nat → Writing → Writing
  | [], writing => writing
  | code :: codes, writing =>
    let start := { writing with
      distance := writing.distance + (code - next) * (writing.placed + 1) }
    let finished := text.foldl (Writing.meet code) start
    placeAll text (code + 1) codes { finished with distance := finished.distance + 1 }

/-- Whether a character is plain. -/
def isPlain (c : Char) : Bool :=
  c.toNat < 0x80

/-- A text in plain characters. -/
def encode (text : List Char) : List Char :=
  let plain := text.filter isPlain
  let codes := (((text.filter (!isPlain ·)).map Char.toNat).mergeSort).eraseDups
  let writing := Writing.placeAll text 0x80 codes ⟨plain.length, 0, 72, true, []⟩
  plain ++ (if plain.isEmpty then [] else ['-']) ++ writing.digits.reverse

/-- Reads the digits of a distance from a position on, each worth `weight`: the distance and what
follows. -/
def readDistance? (bias position weight : Nat) : List Char → Option (Nat × List Char)
  | [] => none
  | c :: rest => do
    let value ← value? c
    let least := threshold bias position
    if value < least then some (value * weight, rest)
    else
      let (more, rest) ← readDistance? bias (position + 1) (weight * (36 - least)) rest
      some (value * weight + more, rest)

/-- A distance takes at least one digit. -/
theorem length_of_readDistance? {bias position weight distance : Nat} {text rest : List Char}
    (read : readDistance? bias position weight text = some (distance, rest)) :
    rest.length < text.length := by
  induction text generalizing position weight distance with
  | nil => simp [readDistance?] at read
  | cons c tail ih =>
    simp only [readDistance?, Option.bind_eq_bind, Option.bind_eq_some_iff] at read
    obtain ⟨value, -, read⟩ := read
    split at read
    · obtain ⟨-, rfl⟩ := Prod.mk.inj (Option.some.inj read)
      exact Nat.lt_succ_self _
    · obtain ⟨⟨more, after⟩, later, read⟩ := Option.bind_eq_some_iff.1 read
      obtain ⟨-, rfl⟩ := Prod.mk.inj (Option.some.inj read)
      exact Nat.lt_succ_of_lt (ih later)

/-- Puts in the characters whose distances are given by digits. The next one is told from the number
and the place that the one before has left. -/
def fill (bias code position : Nat) (isFirst : Bool) (text digits : List Char) :
    Option (List Char) :=
  match digits with
  | [] => some text
  | c :: rest =>
    match _read : readDistance? bias 0 1 (c :: rest) with
    | none => none
    | some (distance, after) =>
      let count := text.length + 1
      let code := code + (position + distance) / count
      let position := (position + distance) % count
      if code.isValidChar then
        fill (adapted distance count isFirst) code (position + 1) false
          (text.insertIdx position (Char.ofNat code)) after
      else none
termination_by digits.length
decreasing_by exact length_of_readDistance? _read

/-- Reads a text in plain characters. The last hyphen ends what stands for itself, unless it comes
first. -/
def decode? (text : List Char) : Option (List Char) :=
  let tail := text.reverse.takeWhile (· != '-')
  if tail.length + 1 < text.length then
    fill 72 0x80 0 true (text.take (text.length - tail.length - 1)) tail.reverse
  else fill 72 0x80 0 true [] text

end Locution.Domain.Bootstring
