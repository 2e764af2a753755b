import Locution.Json.Sequence

/-!
# Reading records

A record is written as an object with its fields in any order, or as a list of its fields in their
own order. In an object every field may stand once, unknown keys are skipped, and a field that has
to be there is missed only at the end. In a list fields may be left out at the end, and nothing may
follow the last one.
-/

namespace Locution.Json

/-- A field of a record that is being filled in. -/
structure Field (σ : Type) where
  name : String
  required : Bool
  filled : σ → Bool
  /-- Reads the field's value and fills it in. -/
  read : σ → Reader σ

/-- The fields of a record, with the draft in which they are filled in. -/
structure Shape (σ α : Type) where
  title : String
  fields : List (Field σ)
  blank : σ
  /-- The record of a draft in which every required field is filled in. -/
  finish : σ → α

namespace Shape

/-- The first required field that is not filled in. -/
def missing? {σ α : Type} (shape : Shape σ α) (draft : σ) : Option String :=
  (shape.fields.find? fun field => field.required && !field.filled draft).map (·.name)

/-- What messages call a record with the number of its fields. -/
def titleWithCount {σ α : Type} (shape : Shape σ α) : String :=
  let count := shape.fields.length
  let noun := if count == 1 then "element" else "elements"
  s!"{shape.title} with {count} {noun}"

end Shape

/-- The text after a closing bracket, if one follows after blanks; else the text after blanks. -/
def afterClosing (bracket : Char) (text : List Char) : List Char :=
  match skipBlank text with
  | c :: rest => if c == bracket then rest else c :: rest
  | [] => []

/-- What follows in an object: a key after its quotation mark, or the closing bracket. -/
def nextKey (first : Bool) (text : List Char) :
    Except Fault (Next × {rest : List Char // rest.length < text.length}) :=
  match found : skipBlank text with
  | [] => .error (faultBefore .endInObject [])
  | c :: rest =>
    have shorter := length_of_skipBlank found
    if c == '\x7d' then .ok (.close, ⟨rest, shorter⟩)
    else if first then
      if c == '"' then .ok (.element, ⟨rest, shorter⟩)
      else .error (faultAt .expectedKey (c :: rest))
    else if c == ',' then
      match keyed : skipBlank rest with
      | [] => .error (faultBefore .endInValue [])
      | '"' :: key => .ok (.element, ⟨key, Nat.lt_trans (length_of_skipBlank keyed) shorter⟩)
      | '\x7d' :: key => .error (faultAt .trailingComma ('\x7d' :: key))
      | key => .error (faultAt .expectedKey key)
    else .error (faultAt .expectedObjectEnd (c :: rest))

/-- Reads the value of a field, or skips the value of an unknown key. -/
def readFieldValue {σ : Type} (known : Option (Field σ)) (draft : σ) : Reader σ :=
  fun text =>
    match readColon text with
    | .error fault => .error fault
    | .ok colon =>
      match known with
      | some field => (field.read draft colon.rest).map (·.widen (Nat.le_of_lt colon.shorter))
      | none =>
        (skipValue colon.rest).map fun skipped =>
          (skipped.map fun _ => draft).widen (Nat.le_of_lt colon.shorter)

/-- Reads the fields of an object and its closing bracket. -/
def readFieldsFrom {σ α : Type} (shape : Shape σ α) (whole : List Char) (first : Bool)
    (draft : σ) (text : List Char) (within : text.length ≤ whole.length) :
    Except Fault (Parsed whole α) :=
  match nextKey first text with
  | .error fault => .error fault
  | .ok (.close, ⟨rest, shorter⟩) =>
    match shape.missing? draft with
    | some name => .error (faultBefore (.missingField name) rest)
    | none => .ok ⟨shape.finish draft, rest, Nat.lt_of_lt_of_le shorter within⟩
  | .ok (.element, ⟨rest, shorter⟩) =>
    match readString rest with
    | .error fault => .error fault
    | .ok key =>
      have keyed := key.shorter
      let known := shape.fields.find? (·.name == key.value)
      if known.any (·.filled draft) then
        .error (faultBefore (.repeatedField key.value) (afterClosing '\x7d' key.rest))
      else
        match readFieldValue known draft key.rest with
        | .error fault => .error fault
        | .ok filled =>
          have := filled.shorter
          readFieldsFrom shape whole false filled.value filled.rest (by omega)
termination_by text.length

/-- What is left of a text within the whole lies within the whole. -/
theorem le_of_left {whole text rest : List Char} (shorter : rest.length ≤ text.length)
    (within : text.length ≤ whole.length) : rest.length ≤ whole.length :=
  Nat.le_trans shorter within

/-- What follows a value at the end of a text within the whole lies within the whole. -/
theorem le_of_left_of_parsed {α : Type} {whole text rest : List Char}
    (shorter : rest.length ≤ text.length) (within : text.length ≤ whole.length)
    (parsed : Parsed rest α) : parsed.rest.length ≤ whole.length :=
  Nat.le_trans (Nat.le_of_lt parsed.shorter) (Nat.le_trans shorter within)

/-- Reads the fields of a list in their order; `count` fields were passed before. -/
def readPlacesFrom {σ : Type} (title : String) (whole : List Char) (count : Nat) (draft : σ) :
    (fields : List (Field σ)) → (text : List Char) → text.length ≤ whole.length →
    Except Fault (σ × {rest : List Char // rest.length ≤ whole.length})
  | [], text, within => .ok (draft, ⟨text, within⟩)
  | field :: fields, text, within =>
    match nextElement (count == 0) text with
    | .error fault => .error fault
    | .ok (.close, ⟨rest, shorter⟩) =>
      if field.required then
        .error (faultBefore (.wrongLength count title) (afterClosing ']' rest))
      else readPlacesFrom title whole (count + 1) draft fields rest (le_of_left shorter within)
    | .ok (.element, ⟨rest, shorter⟩) =>
      match field.read draft rest with
      | .error fault => .error fault
      | .ok filled =>
        readPlacesFrom title whole (count + 1) filled.value fields filled.rest
          (le_of_left_of_parsed shorter within filled)

/-- Reads the closing bracket of a list after its last element. -/
def readListEnd (text : List Char) : Except Fault (Parsed text Unit) :=
  match found : skipBlank text with
  | ']' :: _ => .ok (.sign found)
  | ',' :: rest =>
    match skipBlank rest with
    | ']' :: rest => .error (faultAt .trailingComma (']' :: rest))
    | rest => .error (faultAt .trailingText rest)
  | [] => .error (faultBefore .endInList [])
  | rest => .error (faultAt .trailingText rest)

/-- Reads a record. -/
def readRecord {σ α : Type} (shape : Shape σ α) : Reader α :=
  readFirst fun first rest =>
    if first == '\x7b' then
      (readFieldsFrom shape rest true shape.blank rest (length_le_self rest)).map (·.after first)
    else if first == '[' then
      match readPlacesFrom shape.titleWithCount rest 0 shape.blank shape.fields rest
          (length_le_self rest) with
      | .error fault => .error fault
      | .ok (draft, ⟨left, shorter⟩) =>
        (readListEnd left).map fun closed =>
          (closed.map fun _ => shape.finish draft).widen (Nat.le_succ_of_le shorter)
    else .error (wrongType shape.title first rest)

/-- Reads a whole text as one value. -/
def readWhole {α : Type} (read : Reader α) (text : List Char) : Except Fault α :=
  match read text with
  | .error fault => .error fault
  | .ok parsed =>
    match skipBlank parsed.rest with
    | [] => .ok parsed.value
    | rest => .error (faultAt .trailingText rest)

end Locution.Json
