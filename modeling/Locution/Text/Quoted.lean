import Locution.Text.HiddenRanges

/-!
# Quoted text

A text between quotation marks, on one line, in which every character shows: quotation marks and
backslashes are marked by a backslash, and characters that do not show are written by name or by
number. Each character is written by itself, whatever stands beside it.
-/

namespace Locution.Text

/-- The digits of a number in base sixteen, without leading zeros. -/
def hexDigits (n : Nat) : List Char :=
  Nat.toDigits 16 n

/-- The form of one character inside quoted text. -/
def escapedChar (c : Char) : List Char :=
  if c == '"' then ['\\', '"']
  else if c == '\\' then ['\\', '\\']
  else if c == '\n' then ['\\', 'n']
  else if c == '\r' then ['\\', 'r']
  else if c == '\t' then ['\\', 't']
  else if c.toNat == 0 then ['\\', '0']
  else if hiddenRanges.contains c then ['\\', 'u', '\x7b'] ++ hexDigits c.toNat ++ ['\x7d']
  else [c]

/-- The form of a text inside the quotation marks. -/
def escaped (text : List Char) : List Char :=
  text.flatMap escapedChar

/-- A text in quotation marks. -/
def quoted (text : String) : String :=
  String.ofList (['"'] ++ escaped text.toList ++ ['"'])

end Locution.Text
