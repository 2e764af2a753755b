import Locution.Json.Record

/-!
# Corpora

A corpus is a list of entries: an expression with some remarks on it, and sentences in which it is
used. Only the expression of an entry and the text of an example have to be there.
-/

namespace Locution

/-- A sentence in which an expression is used. -/
structure Example where
  text : String
  /-- The sentence in another language. -/
  gloss : Option String
  deriving DecidableEq

/-- An expression with its examples. -/
structure Entry where
  expression : String
  meaning : Option String
  unit : Option String
  chapter : Option String
  sourceSection : Option String
  examples : List Example
  deriving DecidableEq

namespace Example

/-- The parts of an example while it is read. -/
structure Draft where
  text : Option String
  gloss : Option (Option String)

/-- The form of an example. -/
def shape : Json.Shape Draft Example where
  title := "struct Example"
  fields := [
    ⟨"text", true, (·.text.isSome), fun draft text =>
      (Json.readText text).map (·.map fun value => { draft with text := some value })⟩,
    ⟨"translation", false, (·.gloss.isSome), fun draft text =>
      (Json.readOptional Json.readText text).map
        (·.map fun value => { draft with gloss := some value })⟩]
  blank := ⟨none, none⟩
  finish := fun draft => ⟨draft.text.getD "", draft.gloss.join⟩

end Example

namespace Entry

/-- The parts of an entry while it is read. -/
structure Draft where
  expression : Option String
  meaning : Option (Option String)
  unit : Option (Option String)
  chapter : Option (Option String)
  sourceSection : Option (Option String)
  examples : Option (List Example)

/-- A remark on an entry: a string that may be missing. -/
def remark (name : String) (get : Draft → Option (Option String))
    (set : Draft → Option String → Draft) : Json.Field Draft :=
  ⟨name, false, fun draft => (get draft).isSome, fun draft text =>
    (Json.readOptional Json.readText text).map (·.map (set draft))⟩

/-- The form of an entry. -/
def shape : Json.Shape Draft Entry where
  title := "struct ExpressionEntry"
  fields := [
    ⟨"expression", true, (·.expression.isSome), fun draft text =>
      (Json.readText text).map (·.map fun value => { draft with expression := some value })⟩,
    remark "meaning" (·.meaning) fun draft value => { draft with meaning := some value },
    remark "unit" (·.unit) fun draft value => { draft with unit := some value },
    remark "chapter" (·.chapter) fun draft value => { draft with chapter := some value },
    remark "source_section" (·.sourceSection) fun draft value =>
      { draft with sourceSection := some value },
    ⟨"examples", false, (·.examples.isSome), fun draft text =>
      (Json.readList (Json.readRecord Example.shape) text).map
        (·.map fun value => { draft with examples := some value })⟩]
  blank := ⟨none, none, none, none, none, none⟩
  finish := fun draft =>
    ⟨draft.expression.getD "", draft.meaning.join, draft.unit.join, draft.chapter.join,
      draft.sourceSection.join, draft.examples.getD []⟩

end Entry

/-- Entries in the order in which they stand. -/
abbrev Corpus := List Entry

/-- Reads a text as a corpus. -/
def Corpus.ofText (text : List Char) : Except Json.Fault Corpus :=
  Json.readWhole (Json.readList (Json.readRecord Entry.shape)) text

end Locution
