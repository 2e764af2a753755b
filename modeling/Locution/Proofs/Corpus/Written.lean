import Locution.Corpus.Entry
import Locution.Proofs.Json.Members
import Locution.Proofs.Json.Sequence

/-! # Written corpora are read back

An entry is written as an object of its parts: the expression and the list of its examples, and its
remarks as far as it has any (`Entry.toValue`). The parts may stand in any order, a missing remark
may be left out or be null, and the same holds of examples (`Entry.WrittenAs`). In each of these
forms a written corpus is read as itself (`Corpus.ofText_writtenAs`).
-/

namespace Locution

open Json

variable {layout : Layout} {level : Nat} {text rest : List Char}

namespace Example

/-- The parts of an example under their keys; a missing gloss is null. -/
inductive Part (sample : Example) : String → Value → Prop where
  | text : Part sample "text" (.string sample.text)
  | gloss : Part sample "translation" (.ofOption .string sample.gloss)

/-- The keys of an example that cannot be left out. -/
inductive Needs (sample : Example) : String → Prop where
  | text : Needs sample "text"
  | gloss {gloss : String} (there : sample.gloss = some gloss) : Needs sample "translation"

/-- Whether a value is a written form of an example. -/
def WrittenAs (sample : Example) : Value → Prop
  | .object members => Spells sample.Part sample.Needs members
  | _ => False

/-- The parts that an example has. -/
def parts (sample : Example) : List (String × Option Value) :=
  [("text", some (.string sample.text)), ("translation", sample.gloss.map .string)]

/-- An example as a value; a missing gloss is left out. -/
def toValue (sample : Example) : Value :=
  .object (givenMembers sample.parts)

/-- The value of an example is one of the forms in which it may be written. -/
theorem writtenAs_toValue (sample : Example) : sample.WrittenAs sample.toValue := by
  have keys : sample.parts.map Prod.fst = ["text", "translation"] := rfl
  refine spells_givenMembers (by rw [keys]; decide) ?_ ?_
  · intro key value given
    simp only [parts, List.mem_cons, Prod.mk.injEq, Option.some.injEq, List.not_mem_nil, or_false]
      at given
    rcases given with ⟨rfl, rfl⟩ | ⟨rfl, there⟩
    · exact .text
    · rw [Value.eq_ofOption_of_map there.symm]
      exact .gloss
  · intro key needs
    cases needs with
    | text => exact ⟨_, List.mem_cons_self, rfl⟩
    | gloss there =>
        refine ⟨_, List.mem_cons_of_mem _ List.mem_cons_self, ?_⟩
        rw [there]
        rfl

/-- The draft of an example after some keys were read. -/
def draft (sample : Example) (keys : List String) : Draft where
  text := whenRead keys "text" sample.text
  gloss := whenRead keys "translation" sample.gloss

/-- Each part of an example fills in its own field. -/
theorem fillsPart {sample : Example} {keys : List String} {key : String} {value : Value}
    (part : sample.Part key value) (new : key ∉ keys) :
    FillsPart shape.fields layout level sample.draft keys key value := by
  cases part with
  | text =>
      refine ⟨_, rfl, isSome_whenRead_eq_false new _, ?_⟩
      intro text rest _ begins
      have next : { sample.draft keys with text := some sample.text } =
          sample.draft ("text" :: keys) := by
        simp [draft, whenRead_cons_self, whenRead_cons_of_ne]
      rw [← next]
      exact (yields_readText sample.text begins).map_value _
  | gloss =>
      refine ⟨_, rfl, isSome_whenRead_eq_false new _, ?_⟩
      intro text rest _ begins
      have next : { sample.draft keys with gloss := some sample.gloss } =
          sample.draft ("translation" :: keys) := by
        simp [draft, whenRead_cons_self, whenRead_cons_of_ne]
      rw [← next]
      exact (yields_readOptional_readText begins).map_value _

/-- The draft of the keys that are needed is complete. -/
theorem finish_draft {sample : Example} {keys : List String}
    (complete : ∀ key, sample.Needs key → key ∈ keys) :
    shape.missing? (sample.draft keys) = none ∧ shape.finish (sample.draft keys) = sample := by
  have text : (sample.draft keys).text = some sample.text :=
    whenRead_of_mem (complete "text" .text) _
  have gloss : (sample.draft keys).gloss.join = sample.gloss :=
    join_whenRead fun _ there => complete "translation" (.gloss there)
  refine ⟨?_, ?_⟩
  · simp [Shape.missing?, shape, text]
  · simp [shape, text, gloss]

/-- An example in one of its forms is read as itself. -/
theorem WrittenAs.reads {sample : Example} {value : Value} (written : sample.WrittenAs value)
    (blank : layout.IsBlank) :
    value.OpensElement layout level ∧ ReadsBack (readRecord shape) layout level value sample := by
  cases value with
  | object members =>
      refine ⟨opensElement_object members, ?_⟩
      intro text rest _ begins
      exact Spells.yields_readRecord written blank rfl
        (fun _ _ _ part new => fillsPart part new) (fun _ complete => finish_draft complete) begins
  | _ => exact written.elim

end Example

namespace Entry

/-- The parts of an entry under their keys; a missing remark is null, and every example is in one
of its forms. -/
inductive Part (entry : Entry) : String → Value → Prop where
  | expression : Part entry "expression" (.string entry.expression)
  | meaning : Part entry "meaning" (.ofOption .string entry.meaning)
  | unit : Part entry "unit" (.ofOption .string entry.unit)
  | chapter : Part entry "chapter" (.ofOption .string entry.chapter)
  | sourceSection : Part entry "source_section" (.ofOption .string entry.sourceSection)
  | examples {values : List Value}
      (written : List.Forall₂ Example.WrittenAs entry.examples values) :
      Part entry "examples" (.list values)

/-- The keys of an entry that cannot be left out. -/
inductive Needs (entry : Entry) : String → Prop where
  | expression : Needs entry "expression"
  | meaning {text : String} (there : entry.meaning = some text) : Needs entry "meaning"
  | unit {text : String} (there : entry.unit = some text) : Needs entry "unit"
  | chapter {text : String} (there : entry.chapter = some text) : Needs entry "chapter"
  | sourceSection {text : String} (there : entry.sourceSection = some text) :
      Needs entry "source_section"
  | examples (there : entry.examples ≠ []) : Needs entry "examples"

/-- Whether a value is a written form of an entry. -/
def WrittenAs (entry : Entry) : Value → Prop
  | .object members => Spells entry.Part entry.Needs members
  | _ => False

/-- The parts that an entry has. -/
def parts (entry : Entry) : List (String × Option Value) :=
  [("expression", some (.string entry.expression)), ("meaning", entry.meaning.map .string),
    ("unit", entry.unit.map .string), ("chapter", entry.chapter.map .string),
    ("source_section", entry.sourceSection.map .string),
    ("examples", some (.list (entry.examples.map Example.toValue)))]

/-- An entry as a value; missing remarks are left out. -/
def toValue (entry : Entry) : Value :=
  .object (givenMembers entry.parts)

theorem writtenAs_toValue (entry : Entry) : entry.WrittenAs entry.toValue := by
  have keys : entry.parts.map Prod.fst =
      ["expression", "meaning", "unit", "chapter", "source_section", "examples"] := rfl
  refine spells_givenMembers (by rw [keys]; decide) ?_ ?_
  · intro key value given
    simp only [parts, List.mem_cons, Prod.mk.injEq, Option.some.injEq, List.not_mem_nil, or_false]
      at given
    rcases given with ⟨rfl, rfl⟩ | ⟨rfl, there⟩ | ⟨rfl, there⟩ | ⟨rfl, there⟩ | ⟨rfl, there⟩ |
      ⟨rfl, rfl⟩
    · exact .expression
    · rw [Value.eq_ofOption_of_map there.symm]
      exact .meaning
    · rw [Value.eq_ofOption_of_map there.symm]
      exact .unit
    · rw [Value.eq_ofOption_of_map there.symm]
      exact .chapter
    · rw [Value.eq_ofOption_of_map there.symm]
      exact .sourceSection
    · refine .examples ?_
      rw [List.forall₂_map_right_iff, List.forall₂_same]
      exact fun sample _ => sample.writtenAs_toValue
  · intro key needs
    have given {text? : Option String} {text : String} (there : text? = some text) :
        (text?.map Value.string).isSome = true := by
      rw [there]
      rfl
    cases needs with
    | expression => exact ⟨some (.string entry.expression), by simp [parts], rfl⟩
    | meaning there => exact ⟨entry.meaning.map .string, by simp [parts], given there⟩
    | unit there => exact ⟨entry.unit.map .string, by simp [parts], given there⟩
    | chapter there => exact ⟨entry.chapter.map .string, by simp [parts], given there⟩
    | sourceSection there =>
        exact ⟨entry.sourceSection.map .string, by simp [parts], given there⟩
    | examples there =>
        exact ⟨some (.list (entry.examples.map Example.toValue)), by simp [parts], rfl⟩

/-- The draft of an entry after some keys were read. -/
def draft (entry : Entry) (keys : List String) : Draft where
  expression := whenRead keys "expression" entry.expression
  meaning := whenRead keys "meaning" entry.meaning
  unit := whenRead keys "unit" entry.unit
  chapter := whenRead keys "chapter" entry.chapter
  sourceSection := whenRead keys "source_section" entry.sourceSection
  examples := whenRead keys "examples" entry.examples

/-- A remark fills in its own field, whether it is there or null. -/
theorem reads_remark {name : String} {get : Draft → Option (Option String)}
    {set : Draft → Option String → Draft} {draft next : Draft} {remark? : Option String}
    (sets : set draft remark? = next) :
    (remark name get set).Reads layout level draft (.ofOption .string remark?) next := by
  intro text rest _ begins
  rw [← sets]
  exact (yields_readOptional_readText begins).map_value _

/-- Each part of an entry fills in its own field. -/
theorem fillsPart {entry : Entry} {keys : List String} {key : String} {value : Value}
    (blank : layout.IsBlank) (part : entry.Part key value) (new : key ∉ keys) :
    FillsPart shape.fields layout level entry.draft keys key value := by
  cases part with
  | expression =>
      refine ⟨_, rfl, isSome_whenRead_eq_false new _, ?_⟩
      intro text rest _ begins
      have next : { entry.draft keys with expression := some entry.expression } =
          entry.draft ("expression" :: keys) := by
        simp [draft, whenRead_cons_self, whenRead_cons_of_ne]
      rw [← next]
      exact (yields_readText entry.expression begins).map_value _
  | meaning =>
      refine ⟨_, rfl, isSome_whenRead_eq_false new _, reads_remark ?_⟩
      simp [draft, whenRead_cons_self, whenRead_cons_of_ne]
  | unit =>
      refine ⟨_, rfl, isSome_whenRead_eq_false new _, reads_remark ?_⟩
      simp [draft, whenRead_cons_self, whenRead_cons_of_ne]
  | chapter =>
      refine ⟨_, rfl, isSome_whenRead_eq_false new _, reads_remark ?_⟩
      simp [draft, whenRead_cons_self, whenRead_cons_of_ne]
  | sourceSection =>
      refine ⟨_, rfl, isSome_whenRead_eq_false new _, reads_remark ?_⟩
      simp [draft, whenRead_cons_self, whenRead_cons_of_ne]
  | examples written =>
      refine ⟨_, rfl, isSome_whenRead_eq_false new _, ?_⟩
      intro text rest ends begins
      have each : ReadsEach (readRecord Example.shape) layout (level + 1) _ entry.examples :=
        (written.imp fun _ _ sample => sample.reads blank).flip
      have next : { entry.draft keys with examples := some entry.examples } =
          entry.draft ("examples" :: keys) := by
        simp [draft, whenRead_cons_self, whenRead_cons_of_ne]
      rw [← next]
      exact (each.readsBack_readList blank text rest ends begins).map_value _

/-- The draft of the keys that are needed is complete. -/
theorem finish_draft {entry : Entry} {keys : List String}
    (complete : ∀ key, entry.Needs key → key ∈ keys) :
    shape.missing? (entry.draft keys) = none ∧ shape.finish (entry.draft keys) = entry := by
  have expression : (entry.draft keys).expression = some entry.expression :=
    whenRead_of_mem (complete "expression" .expression) _
  have meaning : (entry.draft keys).meaning.join = entry.meaning :=
    join_whenRead fun _ there => complete "meaning" (.meaning there)
  have unit : (entry.draft keys).unit.join = entry.unit :=
    join_whenRead fun _ there => complete "unit" (.unit there)
  have chapter : (entry.draft keys).chapter.join = entry.chapter :=
    join_whenRead fun _ there => complete "chapter" (.chapter there)
  have sourceSection : (entry.draft keys).sourceSection.join = entry.sourceSection :=
    join_whenRead fun _ there => complete "source_section" (.sourceSection there)
  have examples : (entry.draft keys).examples.getD [] = entry.examples :=
    getD_whenRead fun there => complete "examples" (.examples there)
  refine ⟨?_, ?_⟩
  · simp [Shape.missing?, shape, remark, expression]
  · simp only [shape, expression, meaning, unit, chapter, sourceSection, examples,
      Option.getD_some]

/-- An entry in one of its forms is read as itself. -/
theorem WrittenAs.reads {entry : Entry} {value : Value} (written : entry.WrittenAs value)
    (blank : layout.IsBlank) :
    value.OpensElement layout level ∧ ReadsBack (readRecord shape) layout level value entry := by
  cases value with
  | object members =>
      refine ⟨opensElement_object members, ?_⟩
      intro text rest _ begins
      exact Spells.yields_readRecord written blank rfl
        (fun _ _ _ part new => fillsPart blank part new) (fun _ complete => finish_draft complete)
        begins
  | _ => exact written.elim

end Entry

/-- **A written corpus is read as itself**, on one line or spread over lines, also when missing
parts are null and the parts of its objects stand in another order. -/
theorem Corpus.ofText_writtenAs (blank : layout.IsBlank) (corpus : Corpus) :
    List.Forall₂ Entry.WrittenAs corpus (corpus.map Entry.toValue) ∧
      ∀ values, List.Forall₂ Entry.WrittenAs corpus values →
        Corpus.ofText ((Value.list values).written layout 0) = .ok corpus := by
  refine ⟨?_, ?_⟩
  · rw [List.forall₂_map_right_iff, List.forall₂_same]
    exact fun entry _ => entry.writtenAs_toValue
  · intro values written
    have each : ReadsEach (readRecord Entry.shape) layout 1 values corpus :=
      (written.imp fun _ _ entry => entry.reads blank).flip
    exact (each.readsBack_readList blank).readWhole

/-- Parts in another order, a remark that is null and one that is left out do not keep an entry from
being read as itself; neither do quotation marks and line feeds in its strings. -/
theorem Corpus.ofText_writtenAs_reordered :
    let corpus : Corpus := [⟨"touch base", none, some "Unit \"3\"", none, none,
      [⟨"Let's\ntouch base.", none⟩]⟩, ⟨"on board", some "in the team", none, none, none, []⟩]
    let first : Value := .object [("examples", .list [.object [("translation", .null),
      ("text", .string "Let's\ntouch base.")]]), ("meaning", .null),
      ("unit", .string "Unit \"3\""), ("expression", .string "touch base")]
    let second : Value := .object [("meaning", .string "in the team"), ("chapter", .null),
      ("expression", .string "on board")]
    Layout.compact.IsBlank ∧ Layout.spread.IsBlank ∧
      List.Forall₂ Entry.WrittenAs corpus [first, second] ∧
      Corpus.ofText (Value.list [first, second]).compactText.toList = .ok corpus ∧
      Corpus.ofText (Value.list [first, second]).spreadText.toList = .ok corpus := by
  intro corpus first second
  have sample : Example.WrittenAs ⟨"Let's\ntouch base.", none⟩
      (.object [("translation", .null), ("text", .string "Let's\ntouch base.")]) := by
    refine ⟨by decide, ?_, ?_⟩
    · simp only [List.forall_mem_cons, List.not_mem_nil, false_implies, implies_true, and_true]
      exact ⟨.gloss, .text⟩
    · intro key needs
      cases needs <;> decide
  have written : List.Forall₂ Entry.WrittenAs corpus [first, second] := by
    refine .cons ⟨by decide, ?_, ?_⟩ (.cons ⟨by decide, ?_, ?_⟩ .nil)
    · simp only [List.forall_mem_cons, List.not_mem_nil, false_implies, implies_true, and_true]
      exact ⟨.examples (.cons sample .nil), .meaning, .unit, .expression⟩
    · intro key needs
      cases needs with
      | chapter there => cases there
      | sourceSection there => cases there
      | _ => decide
    · simp only [List.forall_mem_cons, List.not_mem_nil, false_implies, implies_true, and_true]
      exact ⟨.meaning, .chapter, .expression⟩
    · intro key needs
      cases needs with
      | unit there => cases there
      | sourceSection there => cases there
      | examples there => exact absurd rfl there
      | _ => decide
  have compact := (ofText_writtenAs Layout.isBlank_compact corpus).2 _ written
  have spread := (ofText_writtenAs Layout.isBlank_spread corpus).2 _ written
  refine ⟨Layout.isBlank_compact, Layout.isBlank_spread, written, ?_, ?_⟩
  · rwa [Value.compactText, String.toList_ofList]
  · rwa [Value.spreadText, String.toList_ofList]

end Locution
