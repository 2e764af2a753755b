import Mathlib.Data.List.DropRight
import Locution.Proofs.Json.Sequence
import Locution.Proofs.Json.Skip

/-! # Reading what a text says

A reader decodes the trees that mean a value to it, and no text besides (`Decodes`). Texts decode
strings, readers of what may be null decode null and the rest, and a reader of lists decodes lists
of what its elements are decoded from (`decodes_readList`). So whether a whole text is read can be
told from the one tree that it says (`Decodes.readWhole_iff`).
-/

namespace Locution.Json

variable {α β : Type}

/-- Whether a reader reads a value at just the texts where a tree stands that means the value. -/
structure Decodes (read : Reader α) (means : Tree → α → Prop) : Prop where
  complete : ∀ {tree : Tree} {text rest : List Char} {value : α},
    Stands (.value tree) text rest → EndsNumber rest → means tree value →
      Yields (read text) value rest
  sound : ∀ {text rest : List Char} {value : α}, Yields (read text) value rest →
    ∃ tree, Stands (.value tree) text rest ∧ means tree value

/-- A reader decodes whatever has the same meaning. -/
theorem Decodes.congr {read : Reader α} {means other : Tree → α → Prop}
    (decodes : Decodes read means) (same : ∀ tree value, means tree value ↔ other tree value) :
    Decodes read other where
  complete stands ends meant := decodes.complete stands ends ((same _ _).mpr meant)
  sound yields := by
    obtain ⟨tree, stands, meant⟩ := decodes.sound yields
    exact ⟨tree, stands, (same _ _).mp meant⟩

section Whole

variable {read : Reader α} {means : Tree → α → Prop} {text : List Char} {value : α}

/-- **A whole text is read when it says what means the value.** -/
theorem Decodes.readWhole_iff (decodes : Decodes read means) :
    readWhole read text = .ok value ↔ ∃ tree, SaysWhole tree text ∧ means tree value := by
  constructor
  · intro whole
    obtain ⟨rest, yields, ended⟩ := exists_yields_of_readWhole whole
    obtain ⟨tree, stands, meant⟩ := decodes.sound yields
    exact ⟨tree, ⟨rest, stands, ended⟩, meant⟩
  · rintro ⟨tree, ⟨rest, stands, ended⟩, meant⟩
    exact readWhole_of_yields (decodes.complete stands (endsNumber_of_nothing ended) meant) ended

end Whole

section Scalars

/-- Whether a tree is the string of a text. -/
def IsText (tree : Tree) (text : String) : Prop :=
  tree = .string (unitsOf text)

/-- A text is read where its string stands. -/
theorem decodes_readText : Decodes readText IsText where
  complete := by
    rintro _ text rest value stands _ rfl
    cases stands with
    | string opens string =>
        refine yields_readFirst opens ?_
        rw [if_pos (by rfl)]
        exact (yields_readString_iff.mpr string).map_after _
  sound := by
    intro text rest value yields
    obtain ⟨first, inside, begins, read⟩ := exists_of_readFirst yields
    split at read
    · rename_i quote
      obtain rfl : first = '"' := beq_iff_eq.mp quote
      have string := yields_readString_iff.mp ((yields_map_after_iff _).mp read)
      exact ⟨_, .string begins string, rfl⟩
    · obtain ⟨_, impossible⟩ := read
      cases impossible

/-- Whether a tree means a value that may be missing; null stands for a missing one. -/
inductive MayBeNull (means : Tree → α → Prop) : Tree → Option α → Prop where
  | null : MayBeNull means .null none
  | value {tree : Tree} {value : α} (meant : means tree value) :
      MayBeNull means tree (some value)

/-- Only null begins like null. -/
theorem Tree.kind_ne_null {tree : Tree} (other : tree ≠ .null) : kindOf 'n' ≠ tree.kind := by
  cases tree with
  | null => exact absurd rfl other
  | bool value => cases value <;> decide
  | _ =>
      rw [kind]
      decide

/-- A reader of what may be null decodes null, and what the reader itself decodes. -/
theorem Decodes.readOptional {read : Reader α} {means : Tree → α → Prop}
    (decodes : Decodes read means) (noNull : ∀ value, ¬ means .null value) :
    Decodes (readOptional read) (MayBeNull means) where
  complete := by
    intro tree text rest value? stands ends meant
    cases meant with
    | null =>
        cases stands with
        | null begins =>
            have written : skipBlank text = Value.null.written .compact 0 ++ rest := begins
            exact yields_readOptional_null read written
    | value meant =>
        refine (decodes.complete stands ends meant).readOptional (stands.head?_ne ?_)
        apply Tree.kind_ne_null
        rintro rfl
        exact noNull _ meant
  sound := by
    intro text rest value? yields
    unfold Json.readOptional at yields
    split at yields
    · rename_i inside begins
      have named := (yields_map_widen_iff _).mp yields
      obtain rfl := eq_append_of_readNamed named
      obtain ⟨rfl, _⟩ := named.unique (yields_readNamed "ull" none 'n' rest)
      exact ⟨.null, .null begins, .null⟩
    · obtain ⟨value, read, rfl⟩ := (yields_map_value_iff _).mp yields
      obtain ⟨tree, stands, meant⟩ := decodes.sound read
      exact ⟨tree, stands, .value meant⟩

end Scalars

section Lists

variable {text rest more : List Char}

theorem skipBlank_skipBlank (text : List Char) : skipBlank (skipBlank text) = skipBlank text :=
  List.dropWhile_idempotent _ _

/-- Where an item follows, the reader goes on to an element. -/
theorem exists_nextElement {first : Bool} {tree : Tree} {after : List Char}
    (follows : Follows first text more) (value : Stands (.value tree) more after) :
    ∃ left within, nextElement first text = .ok (.element, ⟨left, within⟩) ∧
      skipBlank left = skipBlank more := by
  obtain ⟨c, inside, begins, kind⟩ := value.exists_kind
  have opens : c ≠ ']' := by
    rintro rfl
    exact tree.kind_ne_closing kind
  cases follows with
  | first =>
      obtain ⟨within, next⟩ := nextElement_first begins opens
      exact ⟨_, within, next, by rw [← begins, skipBlank_skipBlank]⟩
  | later comma =>
      obtain ⟨within, next⟩ := nextElement_later comma begins opens
      exact ⟨_, within, next, rfl⟩

/-- The reader closes a list only at a closing bracket. -/
theorem exists_of_nextElement_close {first : Bool}
    {left : {left : List Char // left.length ≤ text.length}}
    (next : nextElement first text = .ok (.close, left)) :
    ∃ rest, left.1 = ']' :: rest ∧ skipBlank text = ']' :: rest := by
  unfold nextElement at next
  split at next
  · cases next
  · rename_i rest found
    cases next
    exact ⟨rest, rfl, found⟩
  · split at next
    · cases next
    · split at next
      · split at next <;> cases next
      · cases next

/-- The reader goes on to an element only where one may follow. -/
theorem exists_of_nextElement_element {first : Bool}
    {left : {left : List Char // left.length ≤ text.length}}
    (next : nextElement first text = .ok (.element, left)) :
    ∃ more, Follows first text more ∧ skipBlank more = skipBlank left.1 := by
  unfold nextElement at next
  split at next
  · cases next
  · cases next
  · rename_i c rest _ found
    split at next
    · rename_i isFirst
      subst isFirst
      cases next
      exact ⟨text, .first, (skipBlank_skipBlank text).symm.trans (congrArg skipBlank found)⟩
    · rename_i notFirst
      obtain rfl : first = false := Bool.eq_false_iff.mpr notFirst
      split at next
      · rename_i comma
        obtain rfl : c = ',' := beq_iff_eq.mp comma
        split at next
        · cases next
        · cases next
        · cases next
          exact ⟨rest, .later found, rfl⟩
      · cases next

/-- Whether a tree is a list whose items mean the values. -/
inductive IsListOf (means : Tree → α → Prop) : Tree → List α → Prop where
  | list {items : List Tree} {values : List α} (each : List.Forall₂ means items values) :
      IsListOf means (.list items) values

variable {read : Reader α} {means : Tree → α → Prop} {whole : List Char}

/-- The items that are left are read. -/
theorem Decodes.yields_readElementsFrom (decodes : Decodes read means) {first : Bool}
    {items : List Tree} {values done : List α} (each : List.Forall₂ means items values)
    (stands : Stands (.items first items) text rest) (flag : done.isEmpty = first)
    (within : text.length ≤ whole.length) :
    Yields (readElementsFrom read whole done text within) (done.reverse ++ values) rest := by
  induction each generalizing first done text with
  | nil =>
      cases stands with
      | closeList closes =>
          rw [List.append_nil]
          exact yields_readElementsFrom_of_close within closes
  | @cons tree value items values meant _ ih =>
      cases stands with
      | item follows stands others =>
          obtain ⟨left, shorter, next, same⟩ := exists_nextElement follows stands
          obtain ⟨_, took⟩ :=
            decodes.complete (stands.of_skipBlank same) others.endsNumber_of_items meant
          rw [readElementsFrom]
          simp only [flag, next, took]
          have further : ∀ within, Yields (readElementsFrom read whole (value :: done) _ within)
              ((value :: done).reverse ++ values) rest := fun within =>
            ih others rfl within
          simp only [List.reverse_cons, List.append_assoc, List.singleton_append] at further
          exact further _

/-- What is read as the end of a list says items that mean the elements. -/
theorem Decodes.exists_items (decodes : Decodes read means) {done result : List α}
    {within : text.length ≤ whole.length}
    (yields : Yields (readElementsFrom read whole done text within) result rest) :
    ∃ items values, Stands (.items done.isEmpty items) text rest ∧
      List.Forall₂ means items values ∧ result = done.reverse ++ values := by
  induction size : text.length using Nat.strongRecOn generalizing text done with
  | ind count ih =>
      obtain ⟨_, yields⟩ := yields
      rw [readElementsFrom] at yields
      split at yields
      · cases yields
      · cases yields
      · rename_i c left shorter next
        obtain ⟨rest, split, closes⟩ := exists_of_nextElement_close next
        obtain ⟨rfl, rfl⟩ := List.cons.inj split
        cases yields
        exact ⟨[], [], .closeList closes, .nil, (List.append_nil _).symm⟩
      · rename_i left shorter next
        split at yields
        · cases yields
        · rename_i element took
          obtain ⟨more, follows, same⟩ := exists_of_nextElement_element next
          obtain ⟨tree, stands, meant⟩ := decodes.sound ⟨element.shorter, took⟩
          have less : element.rest.length < count :=
            size ▸ Nat.lt_of_lt_of_le element.shorter shorter
          obtain ⟨items, values, others, each, rfl⟩ := ih _ less ⟨_, yields⟩ rfl
          refine ⟨tree :: items, element.value :: values,
            .item follows (stands.of_skipBlank same) others, .cons meant each, ?_⟩
          rw [List.reverse_cons, List.append_assoc, List.singleton_append]

/-- **A reader of lists decodes the lists of what its elements are decoded from.** -/
theorem decodes_readList (decodes : Decodes read means) :
    Decodes (readList read) (IsListOf means) where
  complete := by
    rintro _ text rest values stands _ ⟨each⟩
    cases stands with
    | list opens inner =>
        refine yields_readFirst opens ?_
        rw [if_pos (by rfl)]
        exact (decodes.yields_readElementsFrom each inner rfl (length_le_self _)).map_after _
  sound := by
    intro text rest values yields
    obtain ⟨first, inside, begins, read⟩ := exists_of_readFirst yields
    split at read
    · rename_i bracket
      obtain rfl : first = '[' := beq_iff_eq.mp bracket
      obtain ⟨items, _, inner, each, rfl⟩ :=
        decodes.exists_items ((yields_map_after_iff _).mp read)
      exact ⟨.list items, .list begins inner, .list each⟩
    · obtain ⟨_, impossible⟩ := read
      cases impossible

end Lists

end Locution.Json
