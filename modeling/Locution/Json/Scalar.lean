import Locution.Json.Skip

/-!
# Reading values of a known type

Each reader accepts one kind of value. Anything else is a fault that names what stood there: a
scalar is read first, so that its own faults come before the wrong type, and of a list or an object
only the bracket is looked at.
-/

namespace Locution.Json

/-- The fault for a scalar that is not wanted, after reading it. -/
def wrongScalar {α : Type} {text : List Char} (expected : String)
    (read : Except Fault (Parsed text α)) (found : α → Found) : Fault :=
  match read with
  | .error fault => fault
  | .ok scalar => faultBefore (.wrongType (found scalar.value) expected) scalar.rest

/-- The fault for a value of a type that is not wanted, at its first character. -/
def wrongType (expected : String) (first : Char) (text : List Char) : Fault :=
  if first == 'n' then wrongScalar expected (readNamed "ull" () first text) fun _ => .null
  else if first == 't' then wrongScalar expected (readNamed "rue" true first text) .boolean
  else if first == 'f' then wrongScalar expected (readNamed "alse" false first text) .boolean
  else if first == '-' || first.isDigit then
    wrongScalar expected (readNumber first text) Number.found
  else if first == '"' then wrongScalar expected (readString text) .string
  else if first == '[' then faultBefore (.wrongType .sequence expected) (first :: text)
  else if first == '\x7b' then faultBefore (.wrongType .map expected) (first :: text)
  else faultAt .expectedValue (first :: text)

/-- Reads a value by its first character, after blanks. -/
def readFirst {α : Type}
    (read : (first : Char) → (rest : List Char) → Except Fault (Parsed (first :: rest) α)) :
    Reader α :=
  fun text =>
    match found : skipBlank text with
    | [] => .error (faultBefore .endInValue [])
    | first :: rest =>
      (read first rest).map (·.widen (length_le_of_skipBlank found))

/-- Reads true or false. -/
def readBool : Reader Bool :=
  readFirst fun first rest =>
    if first == 't' then readNamed "rue" true first rest
    else if first == 'f' then readNamed "alse" false first rest
    else .error (wrongType "a boolean" first rest)

/-- The whole number of 64 bits with a sign that a number stands for; `rest` is the text after
it. -/
def Number.toInt64 (number : Number) (rest : List Char) : Except Fault Int :=
  match number with
  | .natural value =>
    if value < Nat.pow 2 63 then .ok value
    else .error (faultBefore (.wrongValue number.found "i64") rest)
  | .negative magnitude => .ok (-(magnitude : Int))
  | .real _ _ _ => .error (faultBefore (.wrongType number.found "i64") rest)

/-- Reads a whole number of 64 bits with a sign. -/
def readInt64 : Reader Int :=
  readFirst fun first rest =>
    if first == '-' || first.isDigit then
      match readNumber first rest with
      | .error fault => .error fault
      | .ok number =>
        (number.value.toInt64 number.rest).map fun value => ⟨value, number.rest, number.shorter⟩
    else .error (wrongType "i64" first rest)

/-- Reads a string. -/
def readText : Reader String :=
  readFirst fun first rest =>
    if first == '"' then (readString rest).map (·.after first)
    else .error (wrongType "a string" first rest)

/-- Reads a value that may be null. -/
def readOptional {α : Type} (read : Reader α) : Reader (Option α) :=
  fun text =>
    match found : skipBlank text with
    | 'n' :: rest =>
      (readNamed "ull" none 'n' rest).map (·.widen (length_le_of_skipBlank found))
    | _ => (read text).map (·.map some)

end Locution.Json
