import Locution.Proofs.Json.Record

/-! # Members in any order

The parts of a record may stand in an object in any order, each once, and those that are not needed
may be left out (`Spells`). When every part fills in its own field, the draft depends only on which
keys were read, and so the record does not depend on the order either
(`Spells.yields_readRecord`).
-/

namespace Locution.Json

variable {σ α : Type}

/-- Whether the members of an object are parts of a record, each once, and none that is needed is
left out. -/
structure Spells (part : String → Value → Prop) (needed : String → Prop)
    (members : List (String × Value)) : Prop where
  once : (members.map Prod.fst).Nodup
  each : ∀ member ∈ members, part member.1 member.2
  complete : ∀ key, needed key → key ∈ members.map Prod.fst

/-- Whether the members of an object are parts of a record, and strings under keys that the record
does not know. -/
structure SpellsAmid (known : List String) (part : String → Value → Prop) (needed : String → Prop)
    (members : List (String × Value)) : Prop where
  parts : Spells part needed (members.filter (·.1 ∈ known))
  others : ∀ member ∈ members, member.1 ∉ known → ∃ text, member.2 = .string text

/-- Members that spell the parts of a record do so among other keys as well. -/
theorem Spells.amid {known : List String} {part : String → Value → Prop} {needed : String → Prop}
    {members : List (String × Value)} (spells : Spells part needed members)
    (among : ∀ member ∈ members, member.1 ∈ known) : SpellsAmid known part needed members := by
  refine ⟨?_, fun member inside other => absurd (among member inside) other⟩
  rwa [List.filter_eq_self.mpr fun member inside => decide_eq_true (among member inside)]

/-- The members of an object with the parts that are there. -/
def givenMembers (parts : List (String × Option Value)) : List (String × Value) :=
  parts.filterMap fun part => part.2.map (part.1, ·)

/-- The members that are given are the parts that have a value. -/
theorem mem_givenMembers_iff {parts : List (String × Option Value)} {key : String}
    {value : Value} : (key, value) ∈ givenMembers parts ↔ (key, some value) ∈ parts := by
  constructor
  · intro among
    obtain ⟨⟨name, value?⟩, member, given⟩ := List.mem_filterMap.mp among
    obtain ⟨there, rfl, same⟩ := Option.map_eq_some_iff.mp given
    cases same
    exact member
  · intro member
    exact List.mem_filterMap.mpr ⟨(key, some value), member, rfl⟩

/-- The keys of the members that are given are some of those of the parts, in their order. -/
theorem keys_givenMembers_sublist (parts : List (String × Option Value)) :
    ((givenMembers parts).map Prod.fst).Sublist (parts.map Prod.fst) := by
  induction parts with
  | nil => exact .slnil
  | cons part parts ih =>
      obtain ⟨key, value?⟩ := part
      cases value? with
      | none => exact ih.cons key
      | some value => exact ih.cons_cons key

/-- The parts that have a value spell a record, if they are its parts and all that are needed have
one. -/
theorem spells_givenMembers {parts : List (String × Option Value)}
    {part : String → Value → Prop} {needed : String → Prop} (once : (parts.map Prod.fst).Nodup)
    (each : ∀ key value, (key, some value) ∈ parts → part key value)
    (complete : ∀ key, needed key → ∃ value?, (key, value?) ∈ parts ∧ value?.isSome = true) :
    Spells part needed (givenMembers parts) := by
  refine ⟨(keys_givenMembers_sublist parts).nodup once, ?_, ?_⟩
  · rintro ⟨key, value⟩ among
    exact each key value (mem_givenMembers_iff.mp among)
  · intro key needs
    obtain ⟨value?, given, there⟩ := complete key needs
    obtain ⟨value, rfl⟩ := Option.isSome_iff_exists.mp there
    exact List.mem_map_of_mem (f := Prod.fst) (mem_givenMembers_iff.mpr given)

section Drafts

variable {β : Type} {key other : String} {keys : List String}

/-- The value of a part in a draft: none before its key was read. -/
def whenRead (keys : List String) (key : String) (value : β) : Option β :=
  if key ∈ keys then some value else none

/-- A part has its value as soon as its key was read. -/
theorem whenRead_cons_self (keys : List String) (key : String) (value : β) :
    whenRead (key :: keys) key value = some value :=
  if_pos List.mem_cons_self

/-- Reading another key does not change whether a part has its value. -/
theorem whenRead_cons_of_ne (different : other ≠ key) (value : β) :
    whenRead (key :: keys) other value = whenRead keys other value := by
  simp only [whenRead, List.mem_cons, different, false_or]

/-- A part has its value when its key is among those that were read. -/
theorem whenRead_of_mem (read : key ∈ keys) (value : β) : whenRead keys key value = some value :=
  if_pos read

/-- A part whose key was not read has no value. -/
theorem isSome_whenRead_eq_false (new : key ∉ keys) (value : β) :
    (whenRead keys key value).isSome = false := by
  rw [whenRead, if_neg new, Option.isSome_none]

/-- A part that may be missing is known when its key was read, or when it is missing. -/
theorem join_whenRead {value? : Option β}
    (complete : ∀ value, value? = some value → key ∈ keys) :
    (whenRead keys key value?).join = value? := by
  by_cases read : key ∈ keys
  · rw [whenRead_of_mem read, Option.join_some]
  · rw [whenRead, if_neg read, Option.join_none]
    cases value? with
    | none => rfl
    | some value => exact absurd (complete value rfl) read

/-- A part with a value for the case that it is left out is known when its key was read, or when it
has that value. -/
theorem getD_whenRead {value default : β} (complete : value ≠ default → key ∈ keys) :
    (whenRead keys key value).getD default = value := by
  by_cases read : key ∈ keys
  · rw [whenRead_of_mem read, Option.getD_some]
  · rw [whenRead, if_neg read, Option.getD_none]
    exact (Classical.not_not.mp (mt complete read)).symm

end Drafts

/-- Whether a part that is read after other keys fills in the draft of one more key. -/
def FillsPart (fields : List (Field σ)) (layout : Layout) (level : Nat)
    (draft : List String → σ) (keys : List String) (key : String) (value : Value) : Prop :=
  ∃ field, fields.find? (·.name == key) = some field ∧ field.filled (draft keys) = false ∧
    field.Reads layout level (draft keys) value (draft (key :: keys))

variable {fields : List (Field σ)} {layout : Layout} {level : Nat} {draft : List String → σ}
  {part : String → Value → Prop} {needed : String → Prop} {members : List (String × Value)}

/-- Parts with different keys fill in the draft of their keys. -/
theorem fills_of_parts
    (fill : ∀ keys key value, part key value → key ∉ keys →
      FillsPart fields layout level draft keys key value)
    {keys : List String} (once : (members.map Prod.fst).Nodup)
    (each : ∀ member ∈ members, part member.1 member.2)
    (apart : ∀ key ∈ members.map Prod.fst, key ∉ keys) :
    Fills fields layout level (draft keys) members
      (draft ((members.map Prod.fst).reverse ++ keys)) := by
  induction members generalizing keys with
  | nil => exact .nil
  | cons member members ih =>
      obtain ⟨key, value⟩ := member
      obtain ⟨new, others⟩ := List.nodup_cons.mp once
      obtain ⟨first, rest⟩ := List.forall_mem_cons.mp each
      obtain ⟨field, known, unfilled, reads⟩ :=
        fill keys key value first (apart key List.mem_cons_self)
      have further : Fills fields layout level (draft (key :: keys)) members
          (draft ((members.map Prod.fst).reverse ++ key :: keys)) := by
        refine ih others rest ?_
        intro other among
        refine List.not_mem_cons_of_ne_of_not_mem ?_ (apart other (List.mem_cons_of_mem key among))
        rintro rfl
        exact new among
      rw [List.map_cons, List.reverse_cons, List.append_assoc, List.singleton_append]
      exact .cons known unfilled reads further

/-- An object with the parts of a record in any order is read as the record, when the draft of the
needed keys is complete. -/
theorem Spells.yields_readRecord {shape : Shape σ α} {text rest : List Char} {record : α}
    (spells : Spells part needed members) (blank : layout.IsBlank)
    (begun : draft [] = shape.blank)
    (fill : ∀ keys key value, part key value → key ∉ keys →
      FillsPart shape.fields layout (level + 1) draft keys key value)
    (finish : ∀ keys, (∀ key, needed key → key ∈ keys) →
      shape.missing? (draft keys) = none ∧ shape.finish (draft keys) = record)
    (begins : skipBlank text = (Value.object members).written layout level ++ rest) :
    Yields (readRecord shape text) record rest := by
  have fills := fills_of_parts fill spells.once spells.each (fun _ _ => List.not_mem_nil)
  obtain ⟨complete, same⟩ := finish ((members.map Prod.fst).reverse ++ []) (by
    intro key needs
    rw [List.append_nil, List.mem_reverse]
    exact spells.complete key needs)
  rw [begun] at fills
  rw [← same]
  exact Json.yields_readRecord blank fills complete begins

end Locution.Json
