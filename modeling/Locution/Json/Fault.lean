import Locution.Text.Quoted

/-!
# Faults of JSON texts

A fault says why a text could not be read and where: it keeps the text that was left, and how many
bytes of it were already looked at. The line and the column follow from the whole text
(`Fault.position`), so reading itself counts nothing.
-/

namespace Locution.Json

/-- What stood where something else was expected. -/
inductive Found where
  | null
  | boolean (value : Bool)
  | integer (value : Int)
  | real (text : List Char)
  | string (value : String)
  | sequence
  | map

namespace Found

/-- How a message names what was found. -/
def describe : Found → String
  | .null => "null"
  | .boolean value => s!"boolean `{value}`"
  | .integer value => s!"integer `{value}`"
  | .real text => "floating point `" ++ String.ofList text ++ "`"
  | .string value => "string " ++ Text.quoted value
  | .sequence => "sequence"
  | .map => "map"

end Found

/-- Why a text could not be read. -/
inductive Cause where
  | endInValue
  | endInList
  | endInObject
  | endInString
  | expectedValue
  | expectedWord
  | expectedColon
  | expectedListEnd
  | expectedObjectEnd
  | expectedKey
  | trailingComma
  | trailingText
  | invalidNumber
  | numberOutOfRange
  | invalidEscape
  | unpairedEscape
  | loneSurrogate
  | controlCharacter
  | tooDeep
  | wrongType (found : Found) (expected : String)
  | wrongValue (found : Found) (expected : String)
  | wrongLength (length : Nat) (expected : String)
  | missingField (name : String)
  | repeatedField (name : String)

namespace Cause

/-- The words for a cause. -/
def describe : Cause → String
  | .endInValue => "EOF while parsing a value"
  | .endInList => "EOF while parsing a list"
  | .endInObject => "EOF while parsing an object"
  | .endInString => "EOF while parsing a string"
  | .expectedValue => "expected value"
  | .expectedWord => "expected ident"
  | .expectedColon => "expected `:`"
  | .expectedListEnd => "expected `,` or `]`"
  | .expectedObjectEnd => "expected `,` or `\x7d`"
  | .expectedKey => "key must be a string"
  | .trailingComma => "trailing comma"
  | .trailingText => "trailing characters"
  | .invalidNumber => "invalid number"
  | .numberOutOfRange => "number out of range"
  | .invalidEscape => "invalid escape"
  | .unpairedEscape => "unexpected end of hex escape"
  | .loneSurrogate => "lone leading surrogate in hex escape"
  | .controlCharacter => "control character (\\u0000-\\u001F) found while parsing a string"
  | .tooDeep => "recursion limit exceeded"
  | .wrongType found expected => s!"invalid type: {found.describe}, expected {expected}"
  | .wrongValue found expected => s!"invalid value: {found.describe}, expected {expected}"
  | .wrongLength length expected => s!"invalid length {length}, expected {expected}"
  | .missingField name => s!"missing field `{name}`"
  | .repeatedField name => s!"duplicate field `{name}`"

end Cause

/-- A line, counted from one, and the number of its bytes before a place. -/
structure Position where
  line : Nat
  column : Nat

namespace Position

/-- The beginning of a text. -/
def start : Position := ⟨1, 0⟩

/-- The place after a character. -/
def after (position : Position) (c : Char) : Position :=
  if c == '\n' then ⟨position.line + 1, 0⟩
  else ⟨position.line, position.column + c.utf8Size⟩

/-- The place after a number of bytes of a text; the end of the text is not passed. -/
def afterBytes (position : Position) : Nat → List Char → Position
  | 0, _ => position
  | _ + 1, [] => position
  | count + 1, c :: text =>
    if c.utf8Size ≤ count + 1 then
      afterBytes (position.after c) (count + 1 - c.utf8Size) text
    else ⟨position.line, position.column + (count + 1)⟩

end Position

/-- Why and where a text could not be read. -/
structure Fault where
  cause : Cause
  rest : List Char
  /-- The bytes of the text left that were already looked at. -/
  ahead : Nat

namespace Fault

/-- The place of a fault in the text that was read. -/
def position (fault : Fault) (text : List Char) : Position :=
  ((text.take (text.length - fault.rest.length)).foldl Position.after Position.start).afterBytes
    fault.ahead fault.rest

/-- The message about a fault in a text. -/
def message (fault : Fault) (text : List Char) : String :=
  let place := fault.position text
  s!"{fault.cause.describe} at line {place.line} column {place.column}"

end Fault

end Locution.Json
