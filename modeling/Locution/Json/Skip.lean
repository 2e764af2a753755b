import Locution.Json.NumberText
import Locution.Json.StringText

/-!
# Skipping a value

A value that nobody asks for is passed over without limit on how deep it is nested: the brackets
that are still open are kept on a stack. Only the form of the text is checked, by weaker rules than
those for values that are read.
-/

namespace Locution.Json

/-- A bracket that has been opened. -/
inductive Bracket where
  | list
  | object

/-- Skips a value that is no list and no object, at its first character. -/
def skipScalar (first : Char) (text : List Char) : Except Fault (Parsed (first :: text) Unit) :=
  if first == '"' then (skipString text).map (·.after first)
  else if first == 'n' then readNamed "ull" () first text
  else if first == 't' then readNamed "rue" () first text
  else if first == 'f' then readNamed "alse" () first text
  else if first == '-' || first.isDigit then skipNumber first text
  else .error (faultAt .expectedValue (first :: text))

/-- A sign, if it is the first character after blanks. -/
def sign? (sign : Char) (text : List Char) : Option (Parsed text Unit) :=
  match found : skipBlank text with
  | [] => none
  | c :: _ => if c == sign then some (.sign found) else none

/-- Skips the colon after a key. -/
def readColon (text : List Char) : Except Fault (Parsed text Unit) :=
  match sign? ':' text with
  | some colon => .ok colon
  | none =>
    if (skipBlank text).isEmpty then .error (faultBefore .endInObject [])
    else .error (faultAt .expectedColon (skipBlank text))

/-- Skips a key of an object and its colon. -/
def skipKey (text : List Char) : Except Fault (Parsed text Unit) :=
  match sign? '"' text with
  | some opened =>
    match skipString opened.rest with
    | .error fault => .error fault
    | .ok key =>
      (readColon key.rest).map (·.widen (Nat.le_of_lt (Nat.lt_trans key.shorter opened.shorter)))
  | none =>
    if (skipBlank text).isEmpty then .error (faultBefore .endInObject [])
    else .error (faultAt .expectedKey (skipBlank text))

/-- What follows a character found after blanks lies within the whole. -/
theorem lt_of_found {whole text rest : List Char} {c : Char} (found : skipBlank text = c :: rest)
    (within : text.length ≤ whole.length) : rest.length < whole.length :=
  Nat.lt_of_lt_of_le (length_of_skipBlank found) within

/-- What follows a part after such a character lies within the whole. -/
theorem lt_of_found_of_parsed {α : Type} {whole text rest : List Char} {c : Char}
    (found : skipBlank text = c :: rest) (within : text.length ≤ whole.length)
    (parsed : Parsed rest α) : parsed.rest.length < whole.length :=
  Nat.lt_trans parsed.shorter (lt_of_found found within)

/-- What follows a value that begins with such a character lies within the whole. -/
theorem lt_of_parsed_of_found {α : Type} {whole text rest : List Char} {c : Char}
    (found : skipBlank text = c :: rest) (within : text.length ≤ whole.length)
    (parsed : Parsed (c :: rest) α) : parsed.rest.length < whole.length :=
  Nat.lt_of_lt_of_le parsed.shorter (Nat.le_trans (length_le_of_skipBlank found) within)

mutual

/-- Skips a value and closes the brackets that are open around it. -/
def skipValueIn (whole : List Char) (stack : List Bracket) (text : List Char)
    (within : text.length ≤ whole.length) : Except Fault (Parsed whole Unit) :=
  match found : skipBlank text with
  | [] => .error (faultBefore .endInValue [])
  | first :: rest =>
    have _opened := length_of_skipBlank found
    have inside := lt_of_found found within
    if first == '[' then
      match sign? ']' rest with
      | some closing =>
        have _closed := closing.shorter
        have after := lt_of_found_of_parsed found within closing
        closeIn whole stack closing.rest after
      | none =>
        if (skipBlank rest).isEmpty then .error (faultBefore .endInList [])
        else skipValueIn whole (.list :: stack) rest (Nat.le_of_lt inside)
    else if first == '\x7b' then
      match sign? '\x7d' rest with
      | some closing =>
        have _closed := closing.shorter
        have after := lt_of_found_of_parsed found within closing
        closeIn whole stack closing.rest after
      | none =>
        match skipKey rest with
        | .error fault => .error fault
        | .ok key =>
          have _keyed := key.shorter
          have after := lt_of_found_of_parsed found within key
          skipValueIn whole (.object :: stack) key.rest (Nat.le_of_lt after)
    else
      match skipScalar first rest with
      | .error fault => .error fault
      | .ok scalar =>
        have _skipped : scalar.rest.length < rest.length + 1 := scalar.shorter
        have after := lt_of_parsed_of_found found within scalar
        closeIn whole stack scalar.rest after
termination_by text.length

/-- Goes on after a value inside the brackets that are open. -/
def closeIn (whole : List Char) (stack : List Bracket) (text : List Char)
    (within : text.length < whole.length) : Except Fault (Parsed whole Unit) :=
  match stack with
  | [] => .ok ⟨(), text, within⟩
  | .list :: outer =>
    match found : skipBlank text with
    | [] => .error (faultBefore .endInList [])
    | c :: rest =>
      have shorter := length_of_skipBlank found
      have after := Nat.lt_trans shorter within
      if c == ',' then skipValueIn whole (.list :: outer) rest (Nat.le_of_lt after)
      else if c == ']' then closeIn whole outer rest after
      else .error (faultAt .expectedListEnd (c :: rest))
  | .object :: outer =>
    match found : skipBlank text with
    | [] => .error (faultBefore .endInObject [])
    | c :: rest =>
      have shorter := length_of_skipBlank found
      have after := Nat.lt_trans shorter within
      if c == ',' then
        match skipKey rest with
        | .error fault => .error fault
        | .ok key =>
          have keyed := key.shorter
          have further := Nat.lt_trans keyed after
          skipValueIn whole (.object :: outer) key.rest (Nat.le_of_lt further)
      else if c == '\x7d' then closeIn whole outer rest after
      else .error (faultAt .expectedObjectEnd (c :: rest))
termination_by text.length

end

/-- Skips a value of any kind. -/
def skipValue : Reader Unit :=
  fun text => skipValueIn text [] text (length_le_self text)

end Locution.Json
