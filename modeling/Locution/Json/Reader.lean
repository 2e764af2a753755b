import Locution.Json.Fault

/-!
# Reading a text from the left

A reader takes a value from the beginning of a text and leaves the rest, which is always shorter
than the text was. Repeated reading therefore ends, and `length_skipBlank_le` covers the blanks
between values.
-/

namespace Locution.Json

/-- A value read from the beginning of a text, and what is left. -/
structure Parsed (text : List Char) (α : Type) where
  value : α
  rest : List Char
  shorter : rest.length < text.length

/-- Reads a value from the beginning of a text. -/
abbrev Reader (α : Type) := (text : List Char) → Except Fault (Parsed text α)

namespace Parsed

/-- Changes the value that was read. -/
def map {α β : Type} {text : List Char} (f : α → β) (parsed : Parsed text α) : Parsed text β :=
  ⟨f parsed.value, parsed.rest, parsed.shorter⟩

/-- What was read from the end of a text, as read from the whole. -/
def widen {α : Type} {text longer : List Char} (parsed : Parsed text α)
    (within : text.length ≤ longer.length) : Parsed longer α :=
  ⟨parsed.value, parsed.rest, Nat.lt_of_lt_of_le parsed.shorter within⟩

/-- What was read after a first character, as read from the whole. -/
def after {α : Type} {text : List Char} (first : Char) (parsed : Parsed text α) :
    Parsed (first :: text) α :=
  parsed.widen (Nat.le_succ text.length)

end Parsed

/-- A text is no longer than itself. -/
theorem length_le_self (text : List Char) : text.length ≤ text.length :=
  Nat.le_refl _

/-- The blanks that may stand between the parts of a JSON text. -/
def isLayout (c : Char) : Bool :=
  c == ' ' || c == '\n' || c == '\t' || c == '\r'

/-- A text without the blanks at its beginning. -/
def skipBlank (text : List Char) : List Char :=
  text.dropWhile isLayout

/-- Skipping blanks makes no text longer. -/
theorem length_skipBlank_le (text : List Char) : (skipBlank text).length ≤ text.length :=
  (List.dropWhile_sublist (l := text) isLayout).length_le

/-- What follows a character found after blanks is shorter than the text. -/
theorem length_of_skipBlank {text rest : List Char} {c : Char}
    (found : skipBlank text = c :: rest) : rest.length < text.length := by
  have := length_skipBlank_le text
  simp only [found, List.length_cons] at this
  omega

/-- What is left when blanks are skipped is no longer than the text. -/
theorem length_le_of_skipBlank {text rest : List Char} {c : Char}
    (found : skipBlank text = c :: rest) : (c :: rest).length ≤ text.length :=
  found ▸ length_skipBlank_le text

/-- A character found after blanks, as read from a text. -/
def Parsed.sign {text rest : List Char} {c : Char} (found : skipBlank text = c :: rest) :
    Parsed text Unit :=
  ⟨(), rest, length_of_skipBlank found⟩

/-- A fault at the beginning of a text, before its first byte. -/
def faultBefore (cause : Cause) (rest : List Char) : Fault :=
  ⟨cause, rest, 0⟩

/-- A fault at the beginning of a text, its first byte included. -/
def faultAt (cause : Cause) (rest : List Char) : Fault :=
  ⟨cause, rest, 1⟩

/-- Whether a text begins with a decimal digit. -/
def opensWithDigit : List Char → Bool
  | [] => false
  | c :: _ => c.isDigit

/-- Drops the letters of a word that has been begun. -/
def readWord : List Char → List Char → Except Fault (List Char)
  | [], text => .ok text
  | _ :: _, [] => .error (faultBefore .endInValue [])
  | letter :: word, c :: text =>
    if c == letter then readWord word text else .error (faultAt .expectedWord (c :: text))

/-- A word takes nothing back. -/
theorem length_of_readWord {word text rest : List Char} (read : readWord word text = .ok rest) :
    rest.length ≤ text.length := by
  fun_induction readWord word text with
  | case1 text => simp_all only [Except.ok.injEq, Nat.le_refl]
  | case2 => simp_all only [reduceCtorEq]
  | case3 letter word c text same ih =>
    have := ih read
    simp only [List.length_cons]
    omega
  | case4 => simp_all only [reduceCtorEq]

/-- Reads the rest of a word whose first letter is the first character of the text. -/
def readNamed {α : Type} (tail : String) (value : α) (first : Char) (text : List Char) :
    Except Fault (Parsed (first :: text) α) :=
  match read : readWord tail.toList text with
  | .ok rest => .ok ⟨value, rest, by
      have := length_of_readWord read
      simp only [List.length_cons]
      omega⟩
  | .error fault => .error fault

end Locution.Json
