import Locution.Json.Record

/-!
# Values of any kind

A value is read as a whole when its kind is not known beforehand. Keys keep their order, and a key
that stands twice is kept twice. Lists and objects may be nested to a limited depth.
-/

namespace Locution.Json

/-- A value of any kind. -/
inductive Value where
  | null
  | bool (value : Bool)
  | number (value : Number)
  | string (value : String)
  | list (items : List Value)
  | object (members : List (String × Value))

/-- Reads the members of an object and its closing bracket; `done` holds the members before, the
last of them first. -/
def readMembersFrom {α : Type} (read : Reader α) (whole : List Char)
    (done : List (String × α)) (text : List Char) (within : text.length ≤ whole.length) :
    Except Fault (Parsed whole (List (String × α))) :=
  match nextKey done.isEmpty text with
  | .error fault => .error fault
  | .ok (.close, ⟨rest, shorter⟩) =>
    .ok ⟨done.reverse, rest, Nat.lt_of_lt_of_le shorter within⟩
  | .ok (.element, ⟨rest, shorter⟩) =>
    match readString rest with
    | .error fault => .error fault
    | .ok key =>
      have := key.shorter
      match readColon key.rest with
      | .error fault => .error fault
      | .ok colon =>
        have := colon.shorter
        match read colon.rest with
        | .error fault => .error fault
        | .ok member =>
          have := member.shorter
          readMembersFrom read whole ((key.value, member.value) :: done) member.rest (by omega)
termination_by text.length

/-- Reads a value that is no list and no object, at its first character. -/
def readScalar (first : Char) (rest : List Char) : Except Fault (Parsed (first :: rest) Value) :=
  if first == '"' then (readString rest).map fun text =>
    (text.map Value.string).after first
  else if first == 'n' then readNamed "ull" .null first rest
  else if first == 't' then readNamed "rue" (.bool true) first rest
  else if first == 'f' then readNamed "alse" (.bool false) first rest
  else if first == '-' || first.isDigit then (readNumber first rest).map (·.map Value.number)
  else .error (faultAt .expectedValue (first :: rest))

/-- Reads a value in which lists and objects are nested at most to the given depth. -/
def readValue : (depth : Nat) → Reader Value
  | 0 => readFirst fun first rest =>
    if first == '[' || first == '\x7b' then .error (faultAt .tooDeep (first :: rest))
    else readScalar first rest
  | depth + 1 => readFirst fun first rest =>
    if first == '[' then
      (readElementsFrom (readValue depth) rest [] rest (length_le_self rest)).map fun items =>
        (items.map Value.list).after first
    else if first == '\x7b' then
      (readMembersFrom (readValue depth) rest [] rest (length_le_self rest)).map fun members =>
        (members.map Value.object).after first
    else readScalar first rest

/-- How deep lists and objects may be nested in a value that is read as a whole. -/
def depthLimit : Nat := 127

/-- Reads a whole text as a value of any kind. -/
def Value.ofText (text : List Char) : Except Fault Value :=
  readWhole (readValue depthLimit) text

end Locution.Json
