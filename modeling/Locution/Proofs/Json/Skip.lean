import Locution.Proofs.Json.Grammar

/-! # What is skipped

A value that nobody asks for is skipped exactly when it says something
(`Stands.yields_skipValue`, `exists_stands_of_skipValue`). The brackets on the stack stand for the
parts of the text that are still to come (`Closes`), so that one induction covers the two functions
that skip a value and close the brackets around it.
-/

namespace Locution.Json

section Steps

variable {whole text inside more rest : List Char} {stack outer : List Bracket} {sign : Char}

/-- A sign is taken where it stands behind blanks. -/
theorem sign?_eq_some_iff {parsed : Parsed text Unit} :
    sign? sign text = some parsed ↔ skipBlank text = sign :: parsed.rest := by
  unfold sign?
  split
  · rename_i nothing
    constructor
    · intro missed
      cases missed
    · intro begins
      cases nothing.symm.trans begins
  · rename_i c left found
    split
    · rename_i same
      obtain rfl : c = sign := beq_iff_eq.mp same
      constructor
      · rintro ⟨⟩
        exact found
      · intro begins
        obtain ⟨value, after, shorter⟩ := parsed
        obtain ⟨_, rfl⟩ := List.cons.inj (found.symm.trans begins)
        rfl
    · rename_i other
      constructor
      · intro missed
        cases missed
      · intro begins
        exact absurd (beq_iff_eq.mpr (List.cons.inj (found.symm.trans begins)).1) other

theorem sign?_eq_none (other : (skipBlank text).head? ≠ some sign) : sign? sign text = none := by
  cases found : sign? sign text with
  | none => rfl
  | some parsed =>
      rw [sign?_eq_some_iff.mp found] at other
      exact absurd rfl other

theorem exists_sign?_eq_some (begins : skipBlank text = sign :: rest) :
    ∃ shorter, sign? sign text = some ⟨(), rest, shorter⟩ :=
  ⟨length_of_skipBlank begins, sign?_eq_some_iff.mpr begins⟩

/-- Where a colon was read, it stood. -/
theorem skipBlank_of_readColon (read : Yields (readColon text) () rest) :
    skipBlank text = ':' :: rest := by
  obtain ⟨_, read⟩ := read
  unfold readColon at read
  split at read
  · rename_i found
    cases read
    exact sign?_eq_some_iff.mp found
  · split at read <;> cases read

/-- A key is skipped with its colon when it stands for any code units. -/
theorem yields_skipKey_iff :
    Yields (skipKey text) () rest ↔ ∃ units, StandsKey units text rest := by
  constructor
  · rintro ⟨_, read⟩
    unfold skipKey at read
    split at read
    · rename_i opened found
      split at read
      · cases read
      · rename_i key skipped
        obtain ⟨units, string⟩ := yields_skipString_iff.mp ⟨key.shorter, skipped⟩
        have colon := skipBlank_of_readColon ((yields_map_widen_iff _).mp ⟨_, read⟩)
        exact ⟨units, .key (sign?_eq_some_iff.mp found) string colon⟩
    · split at read <;> cases read
  · rintro ⟨units, opens, string, colon⟩
    obtain ⟨_, found⟩ := exists_sign?_eq_some opens
    obtain ⟨_, skipped⟩ := yields_skipString_iff.mpr ⟨units, string⟩
    simp only [skipKey, found, skipped]
    exact (yields_readColon colon).map_widen _

/-- Where a name was skipped, the whole name stood. -/
theorem skipBlank_of_readNamed {tail : String}
    (skipped : Yields (readNamed tail () sign inside) () rest)
    (begins : skipBlank text = sign :: inside) :
    skipBlank text = sign :: (tail.toList ++ rest) := by
  rw [begins, eq_append_of_readNamed skipped]

/-- What is skipped as a scalar is one. -/
theorem exists_stands_of_skipScalar (begins : skipBlank text = sign :: inside)
    (skipped : Yields (skipScalar sign inside) () rest) :
    ∃ tree, Stands (.value tree) text rest := by
  unfold skipScalar at skipped
  split at skipped
  · rename_i quote
    obtain rfl : sign = '"' := beq_iff_eq.mp quote
    obtain ⟨units, string⟩ := yields_skipString_iff.mp ((yields_map_after_iff _).mp skipped)
    exact ⟨_, .string begins string⟩
  · split at skipped
    · rename_i same
      obtain rfl : sign = 'n' := beq_iff_eq.mp same
      exact ⟨_, .null (skipBlank_of_readNamed skipped begins)⟩
    · split at skipped
      · rename_i same
        obtain rfl : sign = 't' := beq_iff_eq.mp same
        exact ⟨_, .yes (skipBlank_of_readNamed skipped begins)⟩
      · split at skipped
        · rename_i same
          obtain rfl : sign = 'f' := beq_iff_eq.mp same
          exact ⟨_, .no (skipBlank_of_readNamed skipped begins)⟩
        · split at skipped
          · obtain ⟨digits, is, rfl⟩ := exists_isNumber_of_skipNumber skipped
            exact ⟨_, .number is begins⟩
          · obtain ⟨_, impossible⟩ := skipped
            cases impossible

/-- A number is skipped as a scalar; its first character opens no other value. -/
theorem IsNumber.yields_skipScalar {digits : List Char} (is : IsNumber (sign :: digits))
    (ends : EndsNumber rest) : sign ≠ '[' ∧ sign ≠ '\x7b' ∧
      Yields (skipScalar sign (digits ++ rest)) () rest := by
  obtain ⟨_, _, split, signed⟩ := is.exists_cons
  obtain ⟨rfl, _⟩ := List.cons.inj split
  have apart := not_mem_of_number_sign signed
  simp only [List.mem_cons, List.not_mem_nil, or_false, not_or] at apart
  obtain ⟨quote, null, yes, no, bracket, _, brace⟩ := apart
  refine ⟨bracket, brace, ?_⟩
  simp only [skipScalar, beq_iff_eq, quote, null, yes, no, signed, ↓reduceIte]
  exact is.yields_skipNumber ends

end Steps

section Completeness

/-- The sign that opens a list or an object. -/
def Bracket.opening : Bracket → Char
  | .list => '['
  | .object => '\x7b'

/-- The sign that closes a list or an object. -/
def Bracket.closing : Bracket → Char
  | .list => ']'
  | .object => '\x7d'

variable {whole text inside more rest final : List Char} {stack : List Bracket} {first : Char}
  {bracket : Bracket}

/-- Behind a skipped scalar, what is open around it goes on. -/
theorem yields_skipValueIn_of_scalar {within : text.length ≤ whole.length}
    (begins : skipBlank text = first :: inside) (noList : first ≠ '[') (noObject : first ≠ '\x7b')
    (scalar : Yields (skipScalar first inside) () rest)
    (goesOn : ∀ within, Yields (closeIn whole stack rest within) () final) :
    Yields (skipValueIn whole stack text within) () final := by
  obtain ⟨_, scalar⟩ := scalar
  rw [skipValueIn]
  split
  · rename_i nothing
    cases nothing.symm.trans begins
  · rename_i found
    obtain ⟨rfl, rfl⟩ := List.cons.inj (found.symm.trans begins)
    simp only [beq_iff_eq, noList, noObject, ↓reduceIte, scalar]
    exact goesOn _

/-- Behind an empty list or object, what is open around it goes on. -/
theorem yields_skipValueIn_of_empty {within : text.length ≤ whole.length}
    (opens : skipBlank text = bracket.opening :: inside)
    (closes : skipBlank inside = bracket.closing :: rest)
    (goesOn : ∀ within, Yields (closeIn whole stack rest within) () final) :
    Yields (skipValueIn whole stack text within) () final := by
  rw [skipValueIn]
  split
  · rename_i nothing
    cases nothing.symm.trans opens
  · rename_i found
    obtain ⟨rfl, rfl⟩ := List.cons.inj (found.symm.trans opens)
    obtain ⟨_, sign⟩ := exists_sign?_eq_some closes
    cases bracket with
    | list =>
        simp only [Bracket.opening, Bracket.closing] at sign ⊢
        simp only [beq_self_eq_true, ↓reduceIte, sign]
        exact goesOn _
    | object =>
        simp only [Bracket.opening, Bracket.closing] at sign ⊢
        simp only [Char.reduceBEq, Bool.false_eq_true, beq_self_eq_true, ↓reduceIte, sign]
        exact goesOn _

/-- A list that is not empty is skipped from its first item on, with its bracket on the stack. -/
theorem yields_skipValueIn_of_list {within : text.length ≤ whole.length}
    (opens : skipBlank text = '[' :: inside) (filled : skipBlank inside ≠ [])
    (noEnd : (skipBlank inside).head? ≠ some ']')
    (inner : ∀ within, Yields (skipValueIn whole (.list :: stack) inside within) () final) :
    Yields (skipValueIn whole stack text within) () final := by
  rw [skipValueIn]
  split
  · rename_i nothing
    cases nothing.symm.trans opens
  · rename_i found
    obtain ⟨rfl, rfl⟩ := List.cons.inj (found.symm.trans opens)
    simp only [beq_self_eq_true, ↓reduceIte, sign?_eq_none noEnd, List.isEmpty_iff, filled]
    exact inner _

/-- An object that is not empty is skipped from its first value on, with its bracket on the
stack. -/
theorem yields_skipValueIn_of_object {within : text.length ≤ whole.length} {units : List Nat}
    (opens : skipBlank text = '\x7b' :: inside) (key : StandsKey units inside more)
    (inner : ∀ within, Yields (skipValueIn whole (.object :: stack) more within) () final) :
    Yields (skipValueIn whole stack text within) () final := by
  obtain ⟨_, skipped⟩ := yields_skipKey_iff.mpr ⟨units, key⟩
  have noEnd : (skipBlank inside).head? ≠ some '\x7d' := by
    obtain ⟨quote, _, _⟩ := key
    rw [quote]
    nofun
  rw [skipValueIn]
  split
  · rename_i nothing
    cases nothing.symm.trans opens
  · rename_i found
    obtain ⟨rfl, rfl⟩ := List.cons.inj (found.symm.trans opens)
    simp only [Char.reduceBEq, Bool.false_eq_true, beq_self_eq_true, ↓reduceIte,
      sign?_eq_none noEnd, skipped]
    exact inner _

/-- At its closing sign the innermost bracket is closed. -/
theorem yields_closeIn_of_end {within : text.length < whole.length}
    (closes : skipBlank text = bracket.closing :: rest)
    (goesOn : ∀ within, Yields (closeIn whole stack rest within) () final) :
    Yields (closeIn whole (bracket :: stack) text within) () final := by
  cases bracket with
  | list =>
      rw [closeIn]
      split
      · rename_i nothing
        cases nothing.symm.trans closes
      · rename_i found
        obtain ⟨rfl, rfl⟩ := List.cons.inj (found.symm.trans closes)
        simp only [Bracket.closing, Char.reduceBEq, Bool.false_eq_true, beq_self_eq_true,
          ↓reduceIte]
        exact goesOn _
  | object =>
      rw [closeIn]
      split
      · rename_i nothing
        cases nothing.symm.trans closes
      · rename_i found
        obtain ⟨rfl, rfl⟩ := List.cons.inj (found.symm.trans closes)
        simp only [Bracket.closing, Char.reduceBEq, Bool.false_eq_true, beq_self_eq_true,
          ↓reduceIte]
        exact goesOn _

/-- Behind a comma a list goes on with its next item. -/
theorem yields_closeIn_list_of_comma {within : text.length < whole.length}
    (comma : skipBlank text = ',' :: more)
    (inner : ∀ within, Yields (skipValueIn whole (.list :: stack) more within) () final) :
    Yields (closeIn whole (.list :: stack) text within) () final := by
  rw [closeIn]
  split
  · rename_i nothing
    cases nothing.symm.trans comma
  · rename_i found
    obtain ⟨rfl, rfl⟩ := List.cons.inj (found.symm.trans comma)
    simp only [beq_self_eq_true, ↓reduceIte]
    exact inner _

/-- Behind a comma an object goes on with its next key and value. -/
theorem yields_closeIn_object_of_comma {within : text.length < whole.length} {units : List Nat}
    (comma : skipBlank text = ',' :: inside) (key : StandsKey units inside more)
    (inner : ∀ within, Yields (skipValueIn whole (.object :: stack) more within) () final) :
    Yields (closeIn whole (.object :: stack) text within) () final := by
  obtain ⟨_, skipped⟩ := yields_skipKey_iff.mpr ⟨units, key⟩
  rw [closeIn]
  split
  · rename_i nothing
    cases nothing.symm.trans comma
  · rename_i found
    obtain ⟨rfl, rfl⟩ := List.cons.inj (found.symm.trans comma)
    simp only [beq_self_eq_true, ↓reduceIte, skipped]
    exact inner _

/-- Whether the inside of a list or an object is skipped: the bracket before its first part with
it, the later parts while the bracket is open. -/
def SkipsInside (whole final : List Char) (stack : List Bracket) (bracket : Bracket)
    (text : List Char) (first : Bool) : Prop :=
  match first with
  | true => ∀ before within, skipBlank before = bracket.opening :: text →
      Yields (skipValueIn whole stack before within) () final
  | false => ∀ within, Yields (closeIn whole (bracket :: stack) text within) () final

/-- Whether a part is skipped when what is open around it goes on at its end. -/
def Part.Skips (text rest : List Char) (part : Part) : Prop :=
  ∀ whole stack final, (∀ within, Yields (closeIn whole stack rest within) () final) →
    match part with
    | .value _ => EndsNumber rest →
        ∀ within, Yields (skipValueIn whole stack text within) () final
    | .items first _ => SkipsInside whole final stack .list text first
    | .members first _ => SkipsInside whole final stack .object text first

/-- At its closing sign a list or an object is skipped. -/
theorem skipsInside_of_end (first : Bool) (closes : skipBlank text = bracket.closing :: rest)
    (goesOn : ∀ within, Yields (closeIn whole stack rest within) () final) :
    SkipsInside whole final stack bracket text first := by
  cases first with
  | true =>
      intro before within opens
      exact yields_skipValueIn_of_empty opens closes goesOn
  | false =>
      intro within
      exact yields_closeIn_of_end closes goesOn

theorem Stands.skipBlank_ne_nil {tree : Tree} (stands : Stands (.value tree) text rest) :
    skipBlank text ≠ [] := by
  obtain ⟨_, _, begins, _⟩ := stands.exists_kind
  rw [begins]
  nofun

/-- **What says something is skipped.** The induction is on how the part stands. -/
theorem Stands.skips {part : Part} (stands : Stands part text rest) : part.Skips text rest := by
  induction stands with
  | null begins =>
      intro whole stack final goesOn _ within
      exact yields_skipValueIn_of_scalar begins (by decide) (by decide)
        (yields_readNamed "ull" () 'n' _) goesOn
  | yes begins =>
      intro whole stack final goesOn _ within
      exact yields_skipValueIn_of_scalar begins (by decide) (by decide)
        (yields_readNamed "rue" () 't' _) goesOn
  | no begins =>
      intro whole stack final goesOn _ within
      exact yields_skipValueIn_of_scalar begins (by decide) (by decide)
        (yields_readNamed "alse" () 'f' _) goesOn
  | number is begins =>
      intro whole stack final goesOn ends within
      obtain ⟨noList, noObject, scalar⟩ := is.yields_skipScalar ends
      exact yields_skipValueIn_of_scalar begins noList noObject scalar goesOn
  | string opens string =>
      intro whole stack final goesOn _ within
      exact yields_skipValueIn_of_scalar opens (by decide) (by decide)
        ((yields_skipString_iff.mpr ⟨_, string⟩).map_after _) goesOn
  | list opens _ ih =>
      intro whole stack final goesOn _ within
      exact ih whole stack final goesOn _ within opens
  | object opens _ ih =>
      intro whole stack final goesOn _ within
      exact ih whole stack final goesOn _ within opens
  | closeList closes =>
      intro whole stack final goesOn
      exact skipsInside_of_end _ closes goesOn
  | item follows value others ih ihOthers =>
      -- What goes on behind the item are the others, inside one more bracket.
      intro whole stack final goesOn
      have inner := ih whole (.list :: stack) final (ihOthers whole stack final goesOn)
        others.endsNumber_of_items
      cases follows with
      | first =>
          intro before within opens
          exact yields_skipValueIn_of_list opens value.skipBlank_ne_nil
            (value.head?_ne (Tree.kind_ne_closing _)) inner
      | later comma =>
          intro within
          exact yields_closeIn_list_of_comma comma inner
  | closeObject closes =>
      intro whole stack final goesOn
      exact skipsInside_of_end _ closes goesOn
  | member follows key value others ih ihOthers =>
      intro whole stack final goesOn
      have inner := ih whole (.object :: stack) final (ihOthers whole stack final goesOn)
        others.endsNumber_of_members
      cases follows with
      | first =>
          intro before within opens
          exact yields_skipValueIn_of_object opens key inner
      | later comma =>
          intro within
          exact yields_closeIn_object_of_comma comma key inner

end Completeness

section Soundness

/-- What is left of the lists and objects that are open, one part of the text for each bracket. -/
def Closes : List Bracket → List Char → List Char → Prop
  | [], text, final => text = final
  | .list :: outer, text, final =>
      ∃ items rest, Stands (.items false items) text rest ∧ Closes outer rest final
  | .object :: outer, text, final =>
      ∃ members rest, Stands (.members false members) text rest ∧ Closes outer rest final

/-- Whether what is skipped at a text says something, and so do the lists and objects around it. -/
structure SkipsSoundly (text : List Char) : Prop where
  value : ∀ {whole final : List Char} {stack : List Bracket} {within : text.length ≤ whole.length},
    Yields (skipValueIn whole stack text within) () final →
      ∃ tree rest, Stands (.value tree) text rest ∧ Closes stack rest final
  close : ∀ {whole final : List Char} {stack : List Bracket} {within : text.length < whole.length},
    Yields (closeIn whole stack text within) () final → Closes stack text final

variable {whole text final : List Char} {stack : List Bracket}
  (shorter : ∀ left : List Char, left.length < text.length → SkipsSoundly left)
include shorter

/-- What is skipped as a value is one, and what is open around it is closed behind it. -/
theorem exists_stands_of_skipValueIn {within : text.length ≤ whole.length}
    (skipped : Yields (skipValueIn whole stack text within) () final) :
    ∃ tree rest, Stands (.value tree) text rest ∧ Closes stack rest final := by
  obtain ⟨_, skipped⟩ := skipped
  rw [skipValueIn] at skipped
  split at skipped
  · cases skipped
  · rename_i first inside found
    have less := length_of_skipBlank found
    split at skipped
    · rename_i bracket
      obtain rfl : first = '[' := beq_iff_eq.mp bracket
      split at skipped
      · rename_i closing sign
        have closes := (shorter _ (Nat.lt_trans closing.shorter less)).close ⟨_, skipped⟩
        exact ⟨_, _, .list found (.closeList (sign?_eq_some_iff.mp sign)), closes⟩
      · split at skipped
        · cases skipped
        · obtain ⟨tree, after, stands, items, rest, others, closes⟩ :=
            (shorter _ less).value ⟨_, skipped⟩
          exact ⟨_, rest, .list found (.item .first stands others), closes⟩
    · split at skipped
      · rename_i brace
        obtain rfl : first = '\x7b' := beq_iff_eq.mp brace
        split at skipped
        · rename_i closing sign
          have closes := (shorter _ (Nat.lt_trans closing.shorter less)).close ⟨_, skipped⟩
          exact ⟨_, _, .object found (.closeObject (sign?_eq_some_iff.mp sign)), closes⟩
        · split at skipped
          · cases skipped
          · rename_i key keyed
            obtain ⟨units, stands⟩ := yields_skipKey_iff.mp ⟨_, keyed⟩
            obtain ⟨tree, after, value, members, rest, others, closes⟩ :=
              (shorter _ (Nat.lt_trans key.shorter less)).value ⟨_, skipped⟩
            exact ⟨_, rest, .object found (.member .first stands value others), closes⟩
      · split at skipped
        · cases skipped
        · rename_i scalar read
          obtain ⟨tree, stands⟩ := exists_stands_of_skipScalar found ⟨_, read⟩
          have further : scalar.rest.length < text.length :=
            Nat.lt_of_lt_of_le scalar.shorter less
          exact ⟨tree, _, stands, (shorter _ further).close ⟨_, skipped⟩⟩

/-- Where skipping comes to the end of what is open, the text closes it. -/
theorem closes_of_closeIn {within : text.length < whole.length}
    (skipped : Yields (closeIn whole stack text within) () final) : Closes stack text final := by
  obtain ⟨_, skipped⟩ := skipped
  rw [closeIn.eq_def] at skipped
  split at skipped
  · cases skipped
    rfl
  · split at skipped
    · cases skipped
    · rename_i c inside found
      have less := length_of_skipBlank found
      split at skipped
      · rename_i comma
        obtain rfl : c = ',' := beq_iff_eq.mp comma
        obtain ⟨tree, after, stands, items, rest, others, closes⟩ :=
          (shorter _ less).value ⟨_, skipped⟩
        exact ⟨_, rest, .item (.later found) stands others, closes⟩
      · split at skipped
        · rename_i bracket
          obtain rfl : c = ']' := beq_iff_eq.mp bracket
          exact ⟨[], _, .closeList found, (shorter _ less).close ⟨_, skipped⟩⟩
        · cases skipped
  · split at skipped
    · cases skipped
    · rename_i c inside found
      have less := length_of_skipBlank found
      split at skipped
      · rename_i comma
        obtain rfl : c = ',' := beq_iff_eq.mp comma
        split at skipped
        · cases skipped
        · rename_i key keyed
          obtain ⟨units, standsKey⟩ := yields_skipKey_iff.mp ⟨_, keyed⟩
          obtain ⟨tree, after, value, members, rest, others, closes⟩ :=
            (shorter _ (Nat.lt_trans key.shorter less)).value ⟨_, skipped⟩
          exact ⟨_, rest, .member (.later found) standsKey value others, closes⟩
      · split at skipped
        · rename_i brace
          obtain rfl : c = '\x7d' := beq_iff_eq.mp brace
          exact ⟨[], _, .closeObject found, (shorter _ less).close ⟨_, skipped⟩⟩
        · cases skipped

omit shorter

/-- **What is skipped says something.** The induction is on the length of the text, for both
functions that skip at once. -/
theorem skipsSoundly (text : List Char) : SkipsSoundly text := by
  induction size : text.length using Nat.strongRecOn generalizing text with
  | ind count ih =>
      subst size
      have shorter : ∀ left : List Char, left.length < text.length → SkipsSoundly left :=
        fun left less => ih left.length less left rfl
      exact ⟨exists_stands_of_skipValueIn shorter, closes_of_closeIn shorter⟩

end Soundness

variable {text rest : List Char}

/-- **A value is skipped when it says something**, unless the text goes on a number. -/
theorem Stands.yields_skipValue {tree : Tree} (stands : Stands (.value tree) text rest)
    (ends : EndsNumber rest) : Yields (skipValue text) () rest := by
  refine stands.skips text [] rest ?_ ends _
  intro within
  rw [closeIn]
  exact ⟨_, rfl⟩

/-- **Only what says something is skipped.** -/
theorem exists_stands_of_skipValue (skipped : Yields (skipValue text) () rest) :
    ∃ tree, Stands (.value tree) text rest := by
  obtain ⟨tree, after, stands, rfl⟩ := (skipsSoundly text).value skipped
  exact ⟨tree, stands⟩

end Locution.Json
