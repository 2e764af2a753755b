import Locution.Json.Scalar

/-!
# Reading lists

The elements of a list are read one after the other by one reader. Whether another element follows
is decided by the next character: a comma has to stand before every element but the first, and none
before the closing bracket.
-/

namespace Locution.Json

/-- What follows in a list: another element at the given text, or the closing bracket. -/
inductive Next where
  | element
  | close

/-- Decides whether another element follows, and gives the text at which it begins. The closing
bracket is left where it is. -/
def nextElement (first : Bool) (text : List Char) :
    Except Fault (Next × {rest : List Char // rest.length ≤ text.length}) :=
  match found : skipBlank text with
  | [] => .error (faultBefore .endInList [])
  | ']' :: rest =>
    .ok (.close, ⟨']' :: rest, length_le_of_skipBlank found⟩)
  | c :: rest =>
    if first then
      .ok (.element, ⟨c :: rest, length_le_of_skipBlank found⟩)
    else if c == ',' then
      match skipBlank rest with
      | [] => .error (faultBefore .endInValue [])
      | ']' :: rest => .error (faultAt .trailingComma (']' :: rest))
      | _ => .ok (.element, ⟨rest, Nat.le_of_lt (length_of_skipBlank found)⟩)
    else .error (faultAt .expectedListEnd (c :: rest))

/-- Reads the elements of a list and its closing bracket; `done` holds the elements before, the last
of them first, and `whole` is the text in which the list began. -/
def readElementsFrom {α : Type} (read : Reader α) (whole : List Char) (done : List α)
    (text : List Char) (within : text.length ≤ whole.length) :
    Except Fault (Parsed whole (List α)) :=
  match nextElement done.isEmpty text with
  | .error fault => .error fault
  | .ok (.close, ⟨[], _⟩) => .error (faultBefore .endInList [])
  | .ok (.close, ⟨_ :: rest, shorter⟩) => .ok ⟨done.reverse, rest, by
      simp only [List.length_cons] at shorter
      omega⟩
  | .ok (.element, ⟨rest, shorter⟩) =>
    match read rest with
    | .error fault => .error fault
    | .ok element =>
      have := element.shorter
      readElementsFrom read whole (element.value :: done) element.rest (by omega)
termination_by text.length

/-- Reads a list. -/
def readList {α : Type} (read : Reader α) : Reader (List α) :=
  readFirst fun first rest =>
    if first == '[' then
      (readElementsFrom read rest [] rest (length_le_self rest)).map (·.after first)
    else .error (wrongType "a sequence" first rest)

end Locution.Json
