import Locution.Json.Reader
import Locution.Text.Offset

/-!
# Strings in JSON texts

A string is read item by item, where an item is a character, an escape, or the closing quotation
mark. Characters outside the basic plane are escaped as a pair of surrogates, and only whole pairs
make a string. Strings that nobody asks for are skipped under weaker rules: the numbers of their
escapes are not looked at.
-/

namespace Locution.Json

open Text

/-- The value of a digit in base sixteen. -/
def hexValue? (c : Char) : Option Nat :=
  if '0' ≤ c ∧ c ≤ '9' then some (c.toNat - '0'.toNat)
  else if 'a' ≤ c ∧ c ≤ 'f' then some (c.toNat - 'a'.toNat + 10)
  else if 'A' ≤ c ∧ c ≤ 'F' then some (c.toNat - 'A'.toNat + 10)
  else none

/-- The value of four digits in base sixteen. -/
def hexValue4? (a b c d : Char) : Option Nat := do
  let a ← hexValue? a
  let b ← hexValue? b
  let c ← hexValue? c
  let d ← hexValue? d
  return ((a * 16 + b) * 16 + c) * 16 + d

/-- Why the four bytes at the beginning of a text are no four digits. -/
def hexFault (text : List Char) : Fault :=
  if byteLength (text.take 4) < 4 then faultBefore .endInString []
  else ⟨.invalidEscape, text, 4⟩

/-- Reads four digits in base sixteen. -/
def readHex : Reader Nat
  | a :: b :: c :: d :: rest =>
    match hexValue4? a b c d with
    | some value => .ok ⟨value, rest, by simp only [List.length_cons]; omega⟩
    | none => .error (hexFault (a :: b :: c :: d :: rest))
  | text => .error (hexFault text)

/-- The character of an escape by a single letter. -/
def letterEscape? (c : Char) : Option Char :=
  if c == '"' then some '"'
  else if c == '\\' then some '\\'
  else if c == '/' then some '/'
  else if c == 'b' then some '\x08'
  else if c == 'f' then some '\x0c'
  else if c == 'n' then some '\n'
  else if c == 'r' then some '\r'
  else if c == 't' then some '\t'
  else none

/-- The character of a pair of surrogates. -/
def pairedChar (high low : Nat) : Char :=
  Char.ofNat ((high - 0xD800) * 0x400 + (low - 0xDC00) + 0x10000)

/-- Reads the second half of a pair after its first half. -/
def readLowHalf (high : Nat) : Reader Char
  | '\\' :: 'u' :: rest =>
    match readHex rest with
    | .ok low =>
      if 0xDC00 ≤ low.value ∧ low.value ≤ 0xDFFF then
        .ok ⟨pairedChar high low.value, low.rest, by
          have := low.shorter
          simp only [List.length_cons]
          omega⟩
      else .error (faultBefore .loneSurrogate low.rest)
    | .error fault => .error fault
  | ['\\'] => .error (faultBefore .endInString [])
  | '\\' :: c :: rest => .error (faultAt .unpairedEscape (c :: rest))
  | [] => .error (faultBefore .endInString [])
  | text => .error (faultAt .unpairedEscape text)

/-- Reads the number of an escape, and the escape after it when the number is half a character. -/
def readNumberedChar : Reader Char
  | text =>
    match readHex text with
    | .error fault => .error fault
    | .ok code =>
      if 0xDC00 ≤ code.value ∧ code.value ≤ 0xDFFF then
        .error (faultBefore .loneSurrogate code.rest)
      else if 0xD800 ≤ code.value ∧ code.value ≤ 0xDBFF then
        match readLowHalf code.value code.rest with
        | .ok whole => .ok (whole.widen (Nat.le_of_lt code.shorter))
        | .error fault => .error fault
      else .ok ⟨Char.ofNat code.value, code.rest, code.shorter⟩

/-- Reads one item of a string: a character, or nothing for the closing quotation mark. -/
def readStringItem : Reader (Option Char)
  | [] => .error (faultBefore .endInString [])
  | '"' :: rest => .ok ⟨none, rest, by simp only [List.length_cons]; omega⟩
  | ['\\'] => .error (faultBefore .endInString [])
  | '\\' :: 'u' :: rest =>
    match readNumberedChar rest with
    | .ok numbered =>
      .ok ((numbered.map some).widen (by simp only [List.length_cons]; omega))
    | .error fault => .error fault
  | '\\' :: c :: rest =>
    match letterEscape? c with
    | some meant => .ok ⟨some meant, rest, by simp only [List.length_cons]; omega⟩
    | none => .error (faultAt .invalidEscape (c :: rest))
  | c :: rest =>
    if c.toNat < 0x20 then .error (faultAt .controlCharacter (c :: rest))
    else .ok ⟨some c, rest, by simp only [List.length_cons]; omega⟩

/-- Reads the end of a string, up to its closing quotation mark; `done` holds the characters before
it, the last of them first, and `whole` is the text in which the string began. -/
def readStringFrom (whole done text : List Char) (within : text.length ≤ whole.length) :
    Except Fault (Parsed whole String) :=
  match readStringItem text with
  | .error fault => .error fault
  | .ok ⟨none, rest, shorter⟩ =>
    .ok ⟨String.ofList done.reverse, rest, Nat.lt_of_lt_of_le shorter within⟩
  | .ok ⟨some c, rest, shorter⟩ =>
    readStringFrom whole (c :: done) rest (Nat.le_of_lt (Nat.lt_of_lt_of_le shorter within))
termination_by text.length

/-- Reads a string after its opening quotation mark. -/
def readString : Reader String :=
  fun text => readStringFrom text [] text (length_le_self text)

/-- Skips one item of a string; tells whether it was the closing quotation mark. -/
def skipStringItem : Reader Bool
  | [] => .error (faultBefore .endInString [])
  | '"' :: rest => .ok ⟨true, rest, by simp only [List.length_cons]; omega⟩
  | ['\\'] => .error (faultBefore .endInString [])
  | '\\' :: 'u' :: rest =>
    match readHex rest with
    | .ok code => .ok ((code.map fun _ => false).widen (by simp only [List.length_cons]; omega))
    | .error fault => .error fault
  | '\\' :: c :: rest =>
    if (letterEscape? c).isSome then
      .ok ⟨false, rest, by simp only [List.length_cons]; omega⟩
    else .error (faultAt .invalidEscape (c :: rest))
  | c :: rest =>
    if c.toNat < 0x20 then .error (faultBefore .controlCharacter (c :: rest))
    else .ok ⟨false, rest, by simp only [List.length_cons]; omega⟩

/-- Skips the end of a string that began in `whole`. -/
def skipStringFrom (whole text : List Char) (within : text.length ≤ whole.length) :
    Except Fault (Parsed whole Unit) :=
  match skipStringItem text with
  | .error fault => .error fault
  | .ok ⟨true, rest, shorter⟩ => .ok ⟨(), rest, Nat.lt_of_lt_of_le shorter within⟩
  | .ok ⟨false, rest, shorter⟩ =>
    skipStringFrom whole rest (Nat.le_of_lt (Nat.lt_of_lt_of_le shorter within))
termination_by text.length

/-- Skips a string after its opening quotation mark. -/
def skipString : Reader Unit :=
  fun text => skipStringFrom text text (length_le_self text)

end Locution.Json
