import Locution.Batch.Input
import Locution.Proofs.Json.Members
import Locution.Proofs.Json.Value

/-! # Written batches are read back

A request is written as an object with its two parts or as the list of them, and in an object a part
that is empty may be left out (`Request.WrittenAs`). A batch is the list of its requests, or an
object with this list and a word on the semantic source. The parts of an object may stand in any
order and amid strings under other keys. Both forms are read as the same requests
(`BatchInput.ofText_either_form`).
-/

namespace Locution

open Json

namespace Request

/-- The keys of a request. -/
def keys : List String := ["expression", "sentence"]

/-- What stands under the keys of a request. -/
structure Part (request : Request) (key : String) (value : Value) : Prop where
  expression : key = "expression" → value = .string request.expression
  sentence : key = "sentence" → value = .string request.sentence

/-- The keys of a request that cannot be left out. -/
inductive Needs (request : Request) : String → Prop where
  | expression (there : request.expression ≠ "") : Needs request "expression"
  | sentence (there : request.sentence ≠ "") : Needs request "sentence"

/-- Whether a value is a written form of a request. -/
inductive WrittenAs (request : Request) : Value → Prop where
  | object {members : List (String × Value)}
      (spells : SpellsAmid keys request.Part request.Needs members) :
      WrittenAs request (.object members)
  | list : WrittenAs request (.list [.string request.expression, .string request.sentence])

/-- A part of a request, as far as it is not empty. -/
def filledPart (text : String) : Option Value :=
  if text = "" then none else some (.string text)

/-- A part that is written only when it has text is written as this text. -/
theorem eq_string_of_filledPart {text : String} {value : Value}
    (filled : some value = filledPart text) : value = .string text := by
  unfold filledPart at filled
  split at filled
  · cases filled
  · exact Option.some.inj filled

theorem isSome_filledPart {text : String} (there : text ≠ "") :
    (filledPart text).isSome = true := by
  rw [filledPart, if_neg there, Option.isSome_some]

/-- The parts that a request has. -/
def parts (request : Request) : List (String × Option Value) :=
  [("expression", filledPart request.expression), ("sentence", filledPart request.sentence)]

/-- A request as a value; empty parts are left out. -/
def toValue (request : Request) : Value :=
  .object (givenMembers request.parts)

/-- The value of a request is one of the forms in which it may be written. -/
theorem writtenAs_toValue (request : Request) : request.WrittenAs request.toValue := by
  have names : request.parts.map Prod.fst = keys := rfl
  refine .object (Spells.amid (spells_givenMembers (by rw [names]; decide) ?_ ?_) ?_)
  · intro key value given
    simp only [parts, List.mem_cons, Prod.mk.injEq, List.not_mem_nil, or_false] at given
    rcases given with ⟨rfl, filled⟩ | ⟨rfl, filled⟩
    · exact ⟨fun _ => eq_string_of_filledPart filled, fun same => absurd same (by decide)⟩
    · exact ⟨fun same => absurd same (by decide), fun _ => eq_string_of_filledPart filled⟩
  · intro key needs
    cases needs with
    | expression there => exact ⟨_, List.mem_cons_self, isSome_filledPart there⟩
    | sentence there =>
        exact ⟨_, List.mem_cons_of_mem _ List.mem_cons_self, isSome_filledPart there⟩
  · intro member among
    rw [← names]
    exact (keys_givenMembers_sublist request.parts).subset (List.mem_map_of_mem among)

end Request

namespace BatchInput

variable {known : List String} {part : String → Value → Prop} {needed : String → Prop}
  {members : List (String × Value)} {key : String}

/-- Among members with different keys there is always an answer. -/
theorem member?_eq_lookup (once : (members.map Prod.fst).Nodup) :
    member? key members = some (members.lookup key) := by
  induction members with
  | nil => rfl
  | cons member members ih =>
      obtain ⟨name, value⟩ := member
      obtain ⟨new, others⟩ := List.nodup_cons.mp once
      by_cases same : name = key
      · have alone : members.filter (·.1 == key) = [] := by
          refine List.filter_eq_nil_iff.mpr ?_
          intro other among named
          have there : other.1 ∈ members.map Prod.fst := List.mem_map_of_mem among
          rw [beq_iff_eq.mp named, ← same] at there
          exact new there
        have single : ((name, value) :: members).filter (·.1 == key) = [(name, value)] := by
          rw [List.filter_cons_of_pos (by exact beq_iff_eq.mpr same), alone]
        rw [member?, single, same, List.lookup_cons_self]
      · have apart : (key == name) = false := beq_eq_false_iff_ne.mpr (Ne.symm same)
        have rest : ((name, value) :: members).filter (·.1 == key) = members.filter (·.1 == key) :=
          List.filter_cons_of_neg (mt beq_iff_eq.mp same)
        rw [member?, rest, List.lookup_cons, apart]
        exact ih others

/-- Members under other keys do not count. -/
theorem member?_filter (among : key ∈ known) (members : List (String × Value)) :
    member? key (members.filter (·.1 ∈ known)) = member? key members := by
  have narrowed : (members.filter (·.1 ∈ known)).filter (·.1 == key) =
      members.filter (·.1 == key) := by
    rw [List.filter_filter]
    refine List.filter_congr ?_
    rintro ⟨name, value⟩ _
    by_cases same : name = key
    · simp [same, among]
    · simp [same]
  rw [member?, narrowed, member?]

/-- A key that a record knows stands at most once among the members of a written record: with its
part, or not at all when it is not needed. -/
theorem exists_member? (spells : SpellsAmid known part needed members) (among : key ∈ known) :
    ∃ value?, member? key members = some value? ∧ (∀ value, value? = some value → part key value) ∧
      (value? = none → ¬ needed key) := by
  rw [← member?_filter among, member?_eq_lookup spells.parts.once]
  refine ⟨_, rfl, ?_, ?_⟩
  · intro value found
    obtain ⟨before, after, split, _⟩ := List.lookup_eq_some_iff.mp found
    have inside : (key, value) ∈ members.filter (·.1 ∈ known) := by
      rw [split]
      exact List.mem_append_right before List.mem_cons_self
    exact spells.parts.each (key, value) inside
  · intro missing needs
    obtain ⟨member, inside, same⟩ := List.mem_map.mp (spells.parts.complete key needs)
    have apart := List.lookup_eq_none_iff.mp missing member inside
    rw [same, bne_self_eq_false] at apart
    cases apart

variable {layout : Layout} {requests : List Request} {values : List Value}
  {fallback : Option Bool}

/-- A part that is a string is read, and read as empty when it is left out. -/
theorem bind_part?_member? (spells : SpellsAmid known part needed members) (among : key ∈ known)
    {text : String} (only : ∀ value, part key value → value = .string text)
    (needs : text ≠ "" → needed key) : (member? key members).bind part? = some text := by
  obtain ⟨value?, has, fits, missing⟩ := exists_member? spells among
  rw [has, Option.bind_some]
  cases value? with
  | none =>
      have empty : text = "" := Classical.not_not.mp (mt needs (missing rfl))
      rw [empty, part?]
  | some value => rw [only value (fits value rfl), part?]

/-- A request is read from each of its forms. -/
theorem request?_of_writtenAs {request : Request} {value : Value}
    (written : request.WrittenAs value) : request? value = some request := by
  cases written with
  | list => rfl
  | @object members spells =>
      have expression : (member? "expression" members).bind part? = some request.expression :=
        bind_part?_member? spells List.mem_cons_self
          (fun _ part => part.expression rfl) .expression
      have sentence : (member? "sentence" members).bind part? = some request.sentence :=
        bind_part?_member? spells (List.mem_cons_of_mem _ List.mem_cons_self)
          (fun _ part => part.sentence rfl) .sentence
      obtain ⟨_, hasExpression, isExpression⟩ := Option.bind_eq_some_iff.mp expression
      obtain ⟨_, hasSentence, isSentence⟩ := Option.bind_eq_some_iff.mp sentence
      simp [request?, hasExpression, isExpression, hasSentence, isSentence]

/-- A list of written requests is read as these requests, in their order. -/
theorem requests?_of_writtenAs (written : List.Forall₂ Request.WrittenAs requests values) :
    requests? (.list values) = some requests := by
  rw [requests?]
  induction written with
  | nil => rfl
  | cons first _ ih =>
      rw [List.mapM_cons, request?_of_writtenAs first, ih]
      rfl

/-- The keys of a batch. -/
def keys : List String := ["items", "use_ai_fallback"]

/-- What stands under the keys of a batch. -/
structure Part (values : List Value) (fallback : Option Bool) (key : String) (value : Value) :
    Prop where
  items : key = "items" → value = .list values
  fallback : key = "use_ai_fallback" → value = .ofOption .bool fallback

/-- The keys of a batch that cannot be left out. -/
inductive Needs (fallback : Option Bool) : String → Prop where
  | items : Needs fallback "items"
  | fallback {word : Bool} (there : fallback = some word) : Needs fallback "use_ai_fallback"

/-- The setting is read back whether it is given or null. -/
theorem fallback?_ofOption (fallback : Option Bool) :
    fallback? (some (.ofOption .bool fallback)) = some fallback := by
  cases fallback with
  | none => rfl
  | some word => rfl

/-- A batch is read from its object. -/
theorem object?_of_spells (written : List.Forall₂ Request.WrittenAs requests values)
    (spells : SpellsAmid keys (Part values fallback) (Needs fallback) members) :
    object? (.object members) = some (.request requests fallback) := by
  obtain ⟨items?, hasItems, isItems, noItems⟩ := exists_member? spells List.mem_cons_self
  obtain ⟨word?, hasWord, isWord, noWord⟩ :=
    exists_member? spells (List.mem_cons_of_mem _ List.mem_cons_self)
  have items : items? = some (.list values) := by
    cases items? with
    | none => exact absurd .items (noItems rfl)
    | some value => rw [(isItems value rfl).items rfl]
  have word : fallback? word? = some fallback := by
    cases word? with
    | none =>
        cases fallback with
        | none => rfl
        | some word => exact absurd (.fallback rfl) (noWord rfl)
    | some value => rw [(isWord value rfl).fallback rfl, fallback?_ofOption]
  rw [items] at hasItems
  simp [object?, hasItems, requests?_of_writtenAs written, hasWord, word]

/-- An object is one level deeper than the values of the keys that are known. -/
theorem within_object {depth : Nat} (spells : SpellsAmid known part needed members)
    (inside : ∀ key value, key ∈ known → part key value → value.Within depth) :
    (Value.object members).Within (depth + 1) := by
  intro member among
  by_cases knows : member.1 ∈ known
  · have fits : part member.1 member.2 :=
      spells.parts.each member (List.mem_filter.mpr ⟨among, decide_eq_true knows⟩)
    exact inside member.1 member.2 knows fits
  · obtain ⟨text, string⟩ := spells.others member among knows
    rw [string]
    exact Value.within_string text depth

/-- A written request nests one object, however its texts are spelled. -/
theorem within_request {request : Request} {value : Value} (written : request.WrittenAs value)
    (depth : Nat) : value.Within (depth + 1) := by
  cases written with
  | list =>
      intro item among
      simp only [List.mem_cons, List.not_mem_nil, or_false] at among
      rcases among with rfl | rfl
      · exact Value.within_string _ depth
      · exact Value.within_string _ depth
  | object spells =>
      refine within_object spells ?_
      intro key value knows part
      simp only [Request.keys, List.mem_cons, List.not_mem_nil, or_false] at knows
      rcases knows with rfl | rfl
      · rw [part.expression rfl]
        exact Value.within_string _ depth
      · rw [part.sentence rfl]
        exact Value.within_string _ depth

/-- A list of written requests nests a list and its objects. -/
theorem within_list (written : List.Forall₂ Request.WrittenAs requests values) (depth : Nat) :
    (Value.list values).Within (depth + 2) := by
  induction written with
  | nil => exact fun _ among => absurd among List.not_mem_nil
  | cons first _ ih => exact List.forall_mem_cons.mpr ⟨within_request first depth, ih⟩

/-- A setting nests nothing. -/
theorem within_word (fallback : Option Bool) (depth : Nat) :
    (Value.ofOption .bool fallback).Within depth := by
  cases fallback <;> cases depth <;> trivial

/-- A written value that is read as a batch is read as it with the whole text. -/
theorem ofText_of_ofValue? (blank : layout.IsBlank) {value : Value} {input : BatchInput}
    (within : value.Within depthLimit) (read : ofValue? value = some input) :
    ofText (value.written layout 0) = .ok input := by
  have reads : ReadsBack (readValue depthLimit) layout 0 value value :=
    readsBack_readValue blank within
  obtain ⟨_, took⟩ := reads.yields_whole
  rw [ofText]
  simp only [took, read]
  rfl

/-- **Both forms of a batch are read as the same requests**, on one line or spread over lines, and
the object also with its word on the semantic source. -/
theorem ofText_either_form (blank : layout.IsBlank) (requests : List Request) :
    List.Forall₂ Request.WrittenAs requests (requests.map Request.toValue) ∧
      ∀ values, List.Forall₂ Request.WrittenAs requests values →
        (ofText ((Value.list values).written layout 0) = .ok (.items requests) ∧
          (items requests).requests = requests ∧ (items requests).fallback = none) ∧
        ∀ fallback members, SpellsAmid keys (Part values fallback) (Needs fallback) members →
          ofText ((Value.object members).written layout 0) = .ok (.request requests fallback) ∧
            (request requests fallback).requests = requests ∧
            (request requests fallback).fallback = fallback := by
  have own : List.Forall₂ Request.WrittenAs requests (requests.map Request.toValue) := by
    rw [List.forall₂_map_right_iff, List.forall₂_same]
    exact fun request _ => request.writtenAs_toValue
  refine ⟨own, fun values written => ?_⟩
  refine ⟨⟨?_, rfl, rfl⟩, fun fallback members spells => ⟨?_, rfl, rfl⟩⟩
  · have read : ofValue? (.list values) = some (.items requests) := by
      rw [ofValue?, requests?_of_writtenAs written]
      rfl
    exact ofText_of_ofValue? blank (within_list written 125) read
  · have read : ofValue? (.object members) = some (.request requests fallback) := by
      rw [ofValue?, object?_of_spells written spells]
      rfl
    have within : (Value.object members).Within depthLimit := by
      refine within_object spells ?_
      intro key value knows part
      simp only [keys, List.mem_cons, List.not_mem_nil, or_false] at knows
      rcases knows with rfl | rfl
      · rw [part.items rfl]
        exact within_list written 124
      · rw [part.fallback rfl]
        exact within_word fallback _
    exact ofText_of_ofValue? blank within read

/-- Requests in three forms: an object in another order with a key that stands twice, one that
leaves out what is empty, and a list. -/
theorem ofText_either_form_amid :
    let requests : List Request :=
      [⟨"on board", "Is everyone \"on board\"?"⟩, ⟨"", "Only a sentence."⟩, ⟨"", ""⟩]
    let amid : List (String × Value) := [("id", .string "7"),
      ("sentence", .string "Is everyone \"on board\"?"), ("id", .string "8"),
      ("expression", .string "on board")]
    let brief : List (String × Value) := [("sentence", .string "Only a sentence.")]
    let values : List Value := [.object amid, .object brief, .list [.string "", .string ""]]
    let members : List (String × Value) := [("use_ai_fallback", .bool false),
      ("comment", .string "two forms"), ("items", .list values)]
    Layout.compact.IsBlank ∧ List.Forall₂ Request.WrittenAs requests values ∧
      SpellsAmid keys (Part values (some false)) (Needs (some false)) members ∧
      ofText (Value.list values).compactText.toList = .ok (.items requests) ∧
      ofText (Value.object members).compactText.toList = .ok (.request requests (some false)) := by
  intro requests amid brief values members
  have first : Request.WrittenAs ⟨"on board", "Is everyone \"on board\"?"⟩ (.object amid) := by
    refine .object ⟨⟨by decide, ?_, ?_⟩, ?_⟩
    · intro member inside
      simp [amid, Request.keys] at inside
      rcases inside with rfl | rfl
      · exact ⟨fun same => absurd same (by decide), fun _ => rfl⟩
      · exact ⟨fun _ => rfl, fun same => absurd same (by decide)⟩
    · intro key needs
      cases needs <;> decide
    · simp [amid, Request.keys]
  have second : Request.WrittenAs ⟨"", "Only a sentence."⟩ (.object brief) := by
    refine .object ⟨⟨by decide, ?_, ?_⟩, ?_⟩
    · intro member inside
      simp [brief, Request.keys] at inside
      rcases inside with rfl
      exact ⟨fun same => absurd same (by decide), fun _ => rfl⟩
    · intro key needs
      cases needs with
      | expression there => exact absurd rfl there
      | sentence there => decide
    · simp [brief, Request.keys]
  have written : List.Forall₂ Request.WrittenAs requests values :=
    .cons first (.cons second (.cons .list .nil))
  have spells : SpellsAmid keys (Part values (some false)) (Needs (some false)) members := by
    refine ⟨⟨by decide, ?_, ?_⟩, ?_⟩
    · intro member inside
      simp [members, keys] at inside
      rcases inside with rfl | rfl
      · exact ⟨fun same => absurd same (by decide), fun _ => rfl⟩
      · exact ⟨fun _ => rfl, fun same => absurd same (by decide)⟩
    · intro key needs
      cases needs <;> decide
    · simp [members, keys]
  obtain ⟨⟨list, _, _⟩, object⟩ :=
    (ofText_either_form Layout.isBlank_compact requests).2 values written
  refine ⟨Layout.isBlank_compact, written, spells, ?_, ?_⟩
  · rwa [Value.compactText, String.toList_ofList]
  · rw [Value.compactText, String.toList_ofList]
    exact (object (some false) members spells).1

end BatchInput

end Locution
