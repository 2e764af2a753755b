import Locution.Proofs.Json.Grammar
import Locution.Proofs.Json.Sequence

/-! # What a written value says

Every value says a tree (`Value.tree`), and its written form says just this tree, in any layout that
sets parts apart by blanks (`Value.saysWhole_written`).
-/

namespace Locution.Json

mutual

/-- The tree of a value. -/
def Value.tree : Value → Tree
  | .null => .null
  | .bool value => .bool value
  | .number value => .number value.written
  | .string value => .string (unitsOf value)
  | .list items => .list (Value.trees items)
  | .object members => .object (Value.treeMembers members)

/-- The trees of the items of a list. -/
def Value.trees : List Value → List Tree
  | [] => []
  | item :: items => item.tree :: Value.trees items

/-- The members of an object as trees under the code units of their keys. -/
def Value.treeMembers : List (String × Value) → List (List Nat × Tree)
  | [] => []
  | (key, value) :: members => (unitsOf key, value.tree) :: Value.treeMembers members

end

variable {layout : Layout}

/-- A written text stands there by its code units. -/
theorem standsString_written (text : String) (rest : List Char) :
    StandsString (unitsOf text) (text.toList.flatMap writtenChar ++ '"' :: rest) rest :=
  yields_readString_iff.mp (yields_readString text rest)

/-- A written key stands there with its colon. -/
theorem standsKey_written (blank : layout.IsBlank) {text : List Char} (key : String)
    (left : List Char) (opens : skipBlank text =
      '"' :: (key.toList.flatMap writtenChar ++ '"' :: (layout.colon ++ left))) :
    ∃ inner, StandsKey (unitsOf key) text inner ∧ skipBlank inner = skipBlank left := by
  obtain ⟨blanks, colon, are⟩ := blank.colon
  refine ⟨blanks ++ left, .key opens (standsString_written key _) ?_, skipBlank_append are left⟩
  rw [colon]
  exact skipBlank_cons rfl _

/-- A written number stands there, whatever is behind it. -/
theorem stands_written_number (number : Number) (rest : List Char) :
    Stands (.value (.number number.written)) (number.written ++ rest) rest := by
  have is := isNumber_written number
  have plain : skipBlank (number.written ++ rest) = number.written ++ rest :=
    skipBlank_written .compact 0 (.number number) rest
  obtain ⟨first, digits, spelled, _⟩ := is.exists_cons
  rw [spelled] at is plain ⊢
  exact .number is plain

/-- A written value is found behind the blanks that the layout sets before it. -/
theorem skipBlank_before (blank : layout.IsBlank) (level : Nat) (value : Value)
    (rest : List Char) : skipBlank (layout.before level ++ (value.written layout level ++ rest)) =
      skipBlank (value.written layout level ++ rest) :=
  skipBlank_append (blank.before level) _

mutual

/-- A written value stands there as its tree. The induction is on the value, with the parts of a
list or an object that are still to come. -/
theorem Value.stands_written (blank : layout.IsBlank) : ∀ (value : Value) (level : Nat)
    (rest : List Char), Stands (.value value.tree) (value.written layout level ++ rest) rest
  | .null, _, rest => .null (skipBlank_cons rfl ("ull".toList ++ rest))
  | .bool true, _, rest => .yes (skipBlank_cons rfl ("rue".toList ++ rest))
  | .bool false, _, rest => .no (skipBlank_cons rfl ("alse".toList ++ rest))
  | .number value, _, rest => stands_written_number value rest
  | .string text, level, rest => by
      have spelled : (Value.string text).written layout level ++ rest =
          '"' :: (text.toList.flatMap writtenChar ++ '"' :: rest) := by
        simp only [Value.written, writtenString, List.append_assoc, List.cons_append,
          List.nil_append]
      rw [spelled]
      exact .string (skipBlank_cons rfl _) (standsString_written text rest)
  | .list [], level, rest =>
      .list (skipBlank_cons rfl (']' :: rest)) (.closeList (skipBlank_cons rfl rest))
  | .list (item :: items), level, rest => by
      have value := Value.stands_written blank item (level + 1)
        (afterElement layout (level + 1) items (layout.before level) rest)
      have others := Value.stands_afterElement blank items (level + 1) rest (blank.before level)
      rw [written_list_cons]
      exact .list (skipBlank_cons rfl _) (.item .first
        (value.of_skipBlank (skipBlank_before blank (level + 1) item _)) others)
  | .object [], level, rest =>
      .object (skipBlank_cons rfl ('\x7d' :: rest)) (.closeObject (skipBlank_cons rfl rest))
  | .object ((key, value) :: members), level, rest => by
      have stands := Value.stands_written blank value (level + 1)
        (afterMember layout (level + 1) members (layout.before level) rest)
      have others := Value.stands_afterMember blank members (level + 1) rest (blank.before level)
      rw [written_object_cons]
      obtain ⟨inner, keyed, same⟩ := standsKey_written blank key _
        (skipBlank_append_cons (blank.before (level + 1)) rfl _)
      exact .object (skipBlank_cons rfl _)
        (.member .first keyed (stands.of_skipBlank same) others)

/-- What stands behind an element are the trees of the others. -/
theorem Value.stands_afterElement (blank : layout.IsBlank) : ∀ (items : List Value) (level : Nat)
    {closing : List Char} (rest : List Char), AreBlanks closing →
    Stands (.items false (Value.trees items)) (afterElement layout level items closing rest) rest
  | [], level, closing, rest, are => .closeList (skipBlank_append_cons are rfl rest)
  | item :: items, level, closing, rest, are => by
      have value := Value.stands_written blank item level
        (afterElement layout level items closing rest)
      have others := Value.stands_afterElement blank items level rest are
      rw [afterElement_cons]
      exact .item (.later (skipBlank_cons rfl _))
        (value.of_skipBlank (skipBlank_before blank level item _)) others

/-- What stands behind a member are the trees of the others under their keys. -/
theorem Value.stands_afterMember (blank : layout.IsBlank) : ∀ (members : List (String × Value))
    (level : Nat) {closing : List Char} (rest : List Char), AreBlanks closing →
    Stands (.members false (Value.treeMembers members))
      (afterMember layout level members closing rest) rest
  | [], level, closing, rest, are => .closeObject (skipBlank_append_cons are rfl rest)
  | (key, value) :: members, level, closing, rest, are => by
      have stands := Value.stands_written blank value level
        (afterMember layout level members closing rest)
      have others := Value.stands_afterMember blank members level rest are
      rw [afterMember_cons]
      obtain ⟨inner, keyed, same⟩ := standsKey_written blank key _
        (skipBlank_append_cons (blank.before level) rfl _)
      exact .member (.later (skipBlank_cons rfl _)) keyed (stands.of_skipBlank same) others

end

/-- **A written value says its tree.** -/
theorem Value.saysWhole_written (blank : layout.IsBlank) (value : Value) (level : Nat) :
    SaysWhole value.tree (value.written layout level) := by
  have stands := Value.stands_written blank value level []
  rw [List.append_nil] at stands
  exact ⟨[], stands, rfl⟩

/-- The compact text of a value says its tree. -/
theorem Value.saysWhole_compactText (value : Value) :
    SaysWhole value.tree value.compactText.toList := by
  rw [compactText, String.toList_ofList]
  exact saysWhole_written Layout.isBlank_compact value 0

end Locution.Json
