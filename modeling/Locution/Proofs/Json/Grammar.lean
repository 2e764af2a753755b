import Locution.Proofs.Json.CodeUnits
import Locution.Proofs.Json.NumberForm

/-! # What a JSON text says

A JSON text has a meaning apart from how it is read: it says a tree of values (`Stands`). Numbers
count as they are written and strings by their code units, so that every text of the right form has
a meaning, even where a reader of texts or of numbers would give up. The first character of a value
tells its kind (`Stands.exists_kind`), and a whole text says one thing at most (`SaysWhole.unique`).
-/

namespace Locution.Json

/-- What a JSON text says. -/
inductive Tree where
  | null
  | bool (value : Bool)
  | number (digits : List Char)
  | string (units : List Nat)
  | list (items : List Tree)
  | object (members : List (List Nat × Tree))

/-- A part of a JSON text. -/
inductive Part where
  | value (tree : Tree)
  /-- The items of a list that are left, the first of all among them or not, and its closing
  bracket. -/
  | items (first : Bool) (items : List Tree)
  /-- The members of an object that are left, and its closing bracket. -/
  | members (first : Bool) (members : List (List Nat × Tree))

/-- Where the next item or member begins: behind a comma, but for the first of all. -/
inductive Follows : Bool → List Char → List Char → Prop where
  | first {text : List Char} : Follows true text text
  | later {text more : List Char} (comma : skipBlank text = ',' :: more) : Follows false text more

/-- Whether a key with its colon stands at the beginning of a text. -/
inductive StandsKey : List Nat → List Char → List Char → Prop where
  | key {units : List Nat} {text inside closed rest : List Char}
      (opens : skipBlank text = '"' :: inside) (string : StandsString units inside closed)
      (colon : skipBlank closed = ':' :: rest) : StandsKey units text rest

/-- Whether a part stands at the beginning of a text, with the given rest behind it. -/
inductive Stands : Part → List Char → List Char → Prop where
  | null {text rest : List Char} (begins : skipBlank text = 'n' :: ("ull".toList ++ rest)) :
      Stands (.value .null) text rest
  | yes {text rest : List Char} (begins : skipBlank text = 't' :: ("rue".toList ++ rest)) :
      Stands (.value (.bool true)) text rest
  | no {text rest : List Char} (begins : skipBlank text = 'f' :: ("alse".toList ++ rest)) :
      Stands (.value (.bool false)) text rest
  | number {first : Char} {digits text rest : List Char} (is : IsNumber (first :: digits))
      (begins : skipBlank text = first :: (digits ++ rest)) :
      Stands (.value (.number (first :: digits))) text rest
  | string {units : List Nat} {text inside rest : List Char}
      (opens : skipBlank text = '"' :: inside) (string : StandsString units inside rest) :
      Stands (.value (.string units)) text rest
  | list {items : List Tree} {text inside rest : List Char}
      (opens : skipBlank text = '[' :: inside) (inner : Stands (.items true items) inside rest) :
      Stands (.value (.list items)) text rest
  | object {members : List (List Nat × Tree)} {text inside rest : List Char}
      (opens : skipBlank text = '\x7b' :: inside)
      (inner : Stands (.members true members) inside rest) :
      Stands (.value (.object members)) text rest
  | closeList {first : Bool} {text rest : List Char} (closes : skipBlank text = ']' :: rest) :
      Stands (.items first []) text rest
  | item {first : Bool} {tree : Tree} {items : List Tree} {text more after rest : List Char}
      (follows : Follows first text more) (value : Stands (.value tree) more after)
      (others : Stands (.items false items) after rest) :
      Stands (.items first (tree :: items)) text rest
  | closeObject {first : Bool} {text rest : List Char} (closes : skipBlank text = '\x7d' :: rest) :
      Stands (.members first []) text rest
  | member {first : Bool} {units : List Nat} {tree : Tree} {members : List (List Nat × Tree)}
      {text more inner after rest : List Char} (follows : Follows first text more)
      (key : StandsKey units more inner) (value : Stands (.value tree) inner after)
      (others : Stands (.members false members) after rest) :
      Stands (.members first ((units, tree) :: members)) text rest

section Signs

/-- The sign that tells what kind of value begins with a character. -/
def kindOf (c : Char) : Char :=
  if c == '-' || c.isDigit then '0' else c

/-- The sign of the kind of a value. -/
def Tree.kind : Tree → Char
  | .null => 'n'
  | .bool true => 't'
  | .bool false => 'f'
  | .number _ => '0'
  | .string _ => '"'
  | .list _ => '['
  | .object _ => '\x7b'

variable {text rest : List Char} {tree : Tree}

/-- The first character of a value tells its kind. -/
theorem Stands.exists_kind (stands : Stands (.value tree) text rest) :
    ∃ c after, skipBlank text = c :: after ∧ kindOf c = tree.kind := by
  cases stands with
  | null begins => exact ⟨_, _, begins, rfl⟩
  | yes begins => exact ⟨_, _, begins, rfl⟩
  | no begins => exact ⟨_, _, begins, rfl⟩
  | number is begins =>
      obtain ⟨_, _, split, sign⟩ := is.exists_cons
      obtain ⟨rfl, _⟩ := List.cons.inj split
      exact ⟨_, _, begins, if_pos sign⟩
  | string opens => exact ⟨_, _, opens, rfl⟩
  | list opens => exact ⟨_, _, opens, rfl⟩
  | object opens => exact ⟨_, _, opens, rfl⟩

/-- Where a value stands does not depend on the blanks before it. -/
theorem Stands.of_skipBlank {other : List Char} (stands : Stands (.value tree) text rest)
    (same : skipBlank other = skipBlank text) : Stands (.value tree) other rest := by
  cases stands with
  | null begins => exact .null (same.trans begins)
  | yes begins => exact .yes (same.trans begins)
  | no begins => exact .no (same.trans begins)
  | number is begins => exact .number is (same.trans begins)
  | string opens string => exact .string (same.trans opens) string
  | list opens inner => exact .list (same.trans opens) inner
  | object opens inner => exact .object (same.trans opens) inner

/-- A value does not begin with the first character of another kind. -/
theorem Stands.head?_ne (stands : Stands (.value tree) text rest) {c : Char}
    (other : kindOf c ≠ tree.kind) : (skipBlank text).head? ≠ some c := by
  obtain ⟨d, after, begins, kind⟩ := stands.exists_kind
  rw [begins]
  rintro ⟨⟩
  exact other kind

/-- No value begins like the end of a list. -/
theorem Tree.kind_ne_closing (tree : Tree) : kindOf ']' ≠ tree.kind := by
  cases tree with
  | bool value => cases value <;> decide
  | _ =>
      rw [kind]
      decide

/-- Blanks do not go on a number. -/
theorem endsNumber_of_skipBlank (ends : EndsNumber (skipBlank text)) : EndsNumber text := by
  intro c head
  cases text with
  | nil => cases head
  | cons d text =>
      obtain rfl : d = c := Option.some.inj head
      cases blank : isLayout d with
      | true => exact ends_of_isLayout blank
      | false =>
          rw [skipBlank_cons blank] at ends
          exact ends d rfl

/-- Neither a comma nor a closing bracket goes on a number. -/
theorem endsNumber_of_sign {c : Char} (begins : skipBlank text = c :: rest)
    (sign : c = ',' ∨ c = ']' ∨ c = '\x7d') : EndsNumber text := by
  apply endsNumber_of_skipBlank
  rw [begins]
  rintro d ⟨⟩
  rcases sign with rfl | rfl | rfl <;> decide

/-- A number may end where nothing but blanks is left. -/
theorem endsNumber_of_nothing (blank : skipBlank text = []) : EndsNumber text := by
  apply endsNumber_of_skipBlank
  rw [blank]
  exact endsNumber_nil

/-- A number may end where a list goes on or ends. -/
theorem Stands.endsNumber_of_items {items : List Tree}
    (stands : Stands (.items false items) text rest) : EndsNumber text := by
  cases stands with
  | closeList closes => exact endsNumber_of_sign closes (.inr (.inl rfl))
  | item follows =>
      cases follows with
      | later comma => exact endsNumber_of_sign comma (.inl rfl)

/-- A number may end where an object goes on or ends. -/
theorem Stands.endsNumber_of_members {members : List (List Nat × Tree)}
    (stands : Stands (.members false members) text rest) : EndsNumber text := by
  cases stands with
  | closeObject closes => exact endsNumber_of_sign closes (.inr (.inr rfl))
  | member follows =>
      cases follows with
      | later comma => exact endsNumber_of_sign comma (.inl rfl)

end Signs

section Uniqueness

variable {text rest left : List Char}

/-- Whether a part says only one thing and ends at one place. A number has to end where it
stands. -/
def Part.Unique (text rest : List Char) (part : Part) : Prop :=
  match part with
  | .value tree => ∀ other left, Stands (.value other) text left → EndsNumber rest →
      EndsNumber left → other = tree ∧ left = rest
  | .items first trees => ∀ others left, Stands (.items first others) text left →
      others = trees ∧ left = rest
  | .members first pairs => ∀ others left, Stands (.members first others) text left →
      others = pairs ∧ left = rest

theorem Follows.unique {first : Bool} {more other : List Char} (follows : Follows first text more)
    (also : Follows first text other) : other = more := by
  cases follows with
  | first =>
      cases also
      rfl
  | later comma =>
      cases also with
      | later again => exact (List.cons.inj (again.symm.trans comma)).2

/-- One key stands at a place, and it ends at one place. -/
theorem StandsKey.unique {units others : List Nat} (stands : StandsKey units text rest)
    (also : StandsKey others text left) : others = units ∧ left = rest := by
  obtain ⟨opens, string, colon⟩ := stands
  obtain ⟨opensToo, stringToo, colonToo⟩ := also
  obtain ⟨_, rfl⟩ := List.cons.inj (opensToo.symm.trans opens)
  obtain ⟨rfl, rfl⟩ := stringToo.unique string
  exact ⟨rfl, (List.cons.inj (colonToo.symm.trans colon)).2⟩

/-- The end of a list does not follow where an item does. -/
theorem Follows.not_closes {first : Bool} {more after : List Char} {tree : Tree}
    (follows : Follows first text more) (value : Stands (.value tree) more after) :
    skipBlank text ≠ ']' :: rest := by
  intro closes
  cases follows with
  | first => exact value.head?_ne tree.kind_ne_closing (congrArg List.head? closes)
  | later comma => cases comma.symm.trans closes

/-- Where another key follows, the object does not end. -/
theorem Follows.not_closes_of_key {first : Bool} {more after : List Char} {units : List Nat}
    (follows : Follows first text more) (key : StandsKey units more after) :
    skipBlank text ≠ '\x7d' :: rest := by
  intro closes
  cases follows with
  | first =>
      obtain ⟨opens, _, _⟩ := key
      cases opens.symm.trans closes
  | later comma => cases comma.symm.trans closes

/-- A number ends at one place of a text. -/
theorem IsNumber.unique {first : Char} {digits others : List Char}
    (is : IsNumber (first :: digits)) (isToo : IsNumber (first :: others))
    (ends : EndsNumber rest) (endsToo : EndsNumber left)
    (same : others ++ left = digits ++ rest) : others = digits ∧ left = rest := by
  have skippedToo := isToo.yields_skipNumber endsToo
  rw [same] at skippedToo
  obtain ⟨_, rfl⟩ := skippedToo.unique (is.yields_skipNumber ends)
  exact ⟨List.append_cancel_right same, rfl⟩

/-- All values that stand at one place are of one kind. -/
theorem Stands.kind_eq {tree other : Tree} (stands : Stands (.value tree) text rest)
    (also : Stands (.value other) text left) : other.kind = tree.kind := by
  obtain ⟨c, _, begins, kind⟩ := stands.exists_kind
  obtain ⟨d, _, again, same⟩ := also.exists_kind
  obtain ⟨rfl, _⟩ := List.cons.inj (again.symm.trans begins)
  rw [← same, kind]

/-- **A part of a JSON text says one thing.** The induction is on how the part stands; another
value at the same place begins with the same character and hence is of the same kind. -/
theorem Stands.unique {part : Part} (stands : Stands part text rest) : part.Unique text rest := by
  -- Of the ways in which the other value can stand, `same` leaves the one of the same kind.
  induction stands with
  | null begins =>
      intro other left also _ _
      have same := (Stands.null begins).kind_eq also
      cases also with
      | null again =>
          exact ⟨rfl, List.append_cancel_left (List.cons.inj (again.symm.trans begins)).2⟩
      | _ => simp only [Tree.kind, Char.reduceEq] at same
  | yes begins =>
      intro other left also _ _
      have same := (Stands.yes begins).kind_eq also
      cases also with
      | yes again =>
          exact ⟨rfl, List.append_cancel_left (List.cons.inj (again.symm.trans begins)).2⟩
      | _ => simp only [Tree.kind, Char.reduceEq] at same
  | no begins =>
      intro other left also _ _
      have same := (Stands.no begins).kind_eq also
      cases also with
      | no again =>
          exact ⟨rfl, List.append_cancel_left (List.cons.inj (again.symm.trans begins)).2⟩
      | _ => simp only [Tree.kind, Char.reduceEq] at same
  | number is begins =>
      intro other left also ends endsToo
      have same := (Stands.number is begins).kind_eq also
      cases also with
      | number isToo again =>
          obtain ⟨rfl, tail⟩ := List.cons.inj (again.symm.trans begins)
          obtain ⟨rfl, rfl⟩ := is.unique isToo ends endsToo tail
          exact ⟨rfl, rfl⟩
      | _ => simp only [Tree.kind, Char.reduceEq] at same
  | string opens string =>
      intro other left also _ _
      have same := (Stands.string opens string).kind_eq also
      cases also with
      | string again stringToo =>
          obtain ⟨_, rfl⟩ := List.cons.inj (again.symm.trans opens)
          obtain ⟨rfl, rfl⟩ := stringToo.unique string
          exact ⟨rfl, rfl⟩
      | _ => simp only [Tree.kind, Char.reduceEq] at same
  | list opens inner ih =>
      intro other left also _ _
      have same := (Stands.list opens inner).kind_eq also
      cases also with
      | list again innerToo =>
          obtain ⟨_, rfl⟩ := List.cons.inj (again.symm.trans opens)
          obtain ⟨rfl, rfl⟩ := ih _ _ innerToo
          exact ⟨rfl, rfl⟩
      | _ => simp only [Tree.kind, Char.reduceEq] at same
  | object opens inner ih =>
      intro other left also _ _
      have same := (Stands.object opens inner).kind_eq also
      cases also with
      | object again innerToo =>
          obtain ⟨_, rfl⟩ := List.cons.inj (again.symm.trans opens)
          obtain ⟨rfl, rfl⟩ := ih _ _ innerToo
          exact ⟨rfl, rfl⟩
      | _ => simp only [Tree.kind, Char.reduceEq] at same
  | closeList closes =>
      intro others left also
      cases also with
      | closeList again => exact ⟨rfl, (List.cons.inj (again.symm.trans closes)).2⟩
      | item follows value => exact absurd closes (follows.not_closes value)
  | item follows value others ih ihOthers =>
      intro items left also
      cases also with
      | closeList closes => exact absurd closes (follows.not_closes value)
      | item followsToo valueToo othersToo =>
          obtain rfl := follows.unique followsToo
          obtain ⟨rfl, rfl⟩ :=
            ih _ _ valueToo others.endsNumber_of_items othersToo.endsNumber_of_items
          obtain ⟨rfl, rfl⟩ := ihOthers _ _ othersToo
          exact ⟨rfl, rfl⟩
  | closeObject closes =>
      intro others left also
      cases also with
      | closeObject again => exact ⟨rfl, (List.cons.inj (again.symm.trans closes)).2⟩
      | member follows key => exact absurd closes (follows.not_closes_of_key key)
  | member follows key value others ih ihOthers =>
      intro members left also
      cases also with
      | closeObject closes => exact absurd closes (follows.not_closes_of_key key)
      | member followsToo keyToo valueToo othersToo =>
          obtain rfl := follows.unique followsToo
          obtain ⟨rfl, rfl⟩ := key.unique keyToo
          obtain ⟨rfl, rfl⟩ :=
            ih _ _ valueToo others.endsNumber_of_members othersToo.endsNumber_of_members
          obtain ⟨rfl, rfl⟩ := ihOthers _ _ othersToo
          exact ⟨rfl, rfl⟩

/-- Whether a whole text says something. -/
def SaysWhole (tree : Tree) (text : List Char) : Prop :=
  ∃ rest, Stands (.value tree) text rest ∧ skipBlank rest = []

/-- **A whole JSON text says one thing.** -/
theorem SaysWhole.unique {tree other : Tree} (whole : SaysWhole tree text)
    (also : SaysWhole other text) : other = tree := by
  obtain ⟨rest, stands, blank⟩ := whole
  obtain ⟨left, standsToo, blankToo⟩ := also
  exact (stands.unique other left standsToo (endsNumber_of_nothing blank)
    (endsNumber_of_nothing blankToo)).1

end Uniqueness

end Locution.Json
