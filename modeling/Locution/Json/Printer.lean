import Locution.Json.Value

/-!
# Writing values

A value is written on one line without blanks, or spread over lines with two more blanks for every
level. Strings keep all characters but quotation marks, backslashes and control characters. Empty
lists and objects stay on one line in both forms.
-/

namespace Locution.Json

/-- The escape of a control character by its number. -/
def numberedEscape (c : Char) : List Char :=
  let digits := Nat.toDigits 16 c.toNat
  ['\\', 'u'] ++ List.replicate (4 - digits.length) '0' ++ digits

/-- One character inside a written string. -/
def writtenChar (c : Char) : List Char :=
  if c == '"' then ['\\', '"']
  else if c == '\\' then ['\\', '\\']
  else if c == '\x08' then ['\\', 'b']
  else if c == '\x0c' then ['\\', 'f']
  else if c == '\n' then ['\\', 'n']
  else if c == '\r' then ['\\', 'r']
  else if c == '\t' then ['\\', 't']
  else if c.toNat < 0x20 then numberedEscape c
  else [c]

/-- A written string. -/
def writtenString (text : String) : List Char :=
  ['"'] ++ text.toList.flatMap writtenChar ++ ['"']

/-- How the parts of a list or an object are set apart. -/
structure Layout where
  /-- What is written before a part at a level. -/
  before : Nat → List Char
  /-- What is written between a key and its value. -/
  colon : List Char

namespace Layout

/-- Everything on one line, without blanks. -/
def compact : Layout := ⟨fun _ => [], [':']⟩

/-- Every part on a line of its own, two blanks further in for every level. -/
def spread : Layout := ⟨fun level => '\n' :: List.replicate (2 * level) ' ', [':', ' ']⟩

end Layout

/-- Parts of a list or an object between brackets. -/
def enclosed (layout : Layout) (level : Nat) (opening closing : Char) :
    List (List Char) → List Char
  | [] => [opening, closing]
  | part :: parts =>
    [opening] ++ layout.before (level + 1) ++ part ++
      parts.flatMap (fun part => [','] ++ layout.before (level + 1) ++ part) ++
      layout.before level ++ [closing]

mutual

/-- A value in a layout, inside the given number of brackets. -/
def Value.written (layout : Layout) (level : Nat) : Value → List Char
  | .null => "null".toList
  | .bool true => "true".toList
  | .bool false => "false".toList
  | .number value => value.written
  | .string value => writtenString value
  | .list items => enclosed layout level '[' ']' (Value.writtenItems layout (level + 1) items)
  | .object members =>
    enclosed layout level '\x7b' '\x7d' (Value.writtenMembers layout (level + 1) members)

/-- The items of a list, each in a layout. -/
def Value.writtenItems (layout : Layout) (level : Nat) : List Value → List (List Char)
  | [] => []
  | item :: items => item.written layout level :: Value.writtenItems layout level items

/-- The members of an object, each in a layout. -/
def Value.writtenMembers (layout : Layout) (level : Nat) :
    List (String × Value) → List (List Char)
  | [] => []
  | (key, value) :: members =>
    (writtenString key ++ layout.colon ++ value.written layout level) ::
      Value.writtenMembers layout level members

end

namespace Value

/-- A value on one line. -/
def compactText (value : Value) : String :=
  String.ofList (value.written Layout.compact 0)

/-- A value spread over lines. -/
def spreadText (value : Value) : String :=
  String.ofList (value.written Layout.spread 0)

/-- A whole number as a value. -/
def ofNat (n : Nat) : Value :=
  .number (.natural n)

end Value

end Locution.Json
