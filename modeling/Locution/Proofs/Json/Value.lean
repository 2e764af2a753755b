import Locution.Proofs.Json.Sequence

/-! # Written values are read back

A value of any kind is read back from its written form, whatever stands behind it
(`readsBack_readValue`), when its numbers are whole ones of 64 bits and its lists and objects are
nested no deeper than it is read (`Value.Within`). The induction is on the depth: the elements of a
list and the members of an object are read one level less deep.
-/

namespace Locution.Json

/-- Whether a number is whole and has 64 bits. -/
def Number.IsWhole : Number → Prop
  | .natural value => value < Nat.pow 2 64
  | .negative magnitude => 0 < magnitude ∧ magnitude ≤ Nat.pow 2 63
  | .real _ _ _ => False

/-- Whether lists and objects are nested at most to a depth in a value and its numbers are whole. -/
def Value.Within : (depth : Nat) → Value → Prop
  | _, .null | _, .bool _ | _, .string _ => True
  | _, .number value => value.IsWhole
  | 0, .list _ | 0, .object _ => False
  | depth + 1, .list items => ∀ item ∈ items, item.Within depth
  | depth + 1, .object members => ∀ member ∈ members, member.2.Within depth

theorem Value.within_string (text : String) (depth : Nat) : (Value.string text).Within depth := by
  cases depth <;> trivial

variable {layout : Layout} {level : Nat} {text rest : List Char}

/-- Whether a value is neither a list nor an object. -/
def Value.IsScalar : Value → Prop
  | .list _ | .object _ => False
  | _ => True

theorem Value.isScalar_or_exists (value : Value) :
    value.IsScalar ∨ (∃ items, value = .list items) ∨ ∃ members, value = .object members := by
  cases value with
  | list items => exact .inr (.inl ⟨items, rfl⟩)
  | object members => exact .inr (.inr ⟨members, rfl⟩)
  | null => exact .inl trivial
  | bool value => exact .inl trivial
  | number value => exact .inl trivial
  | string value => exact .inl trivial

/-- A whole number is read back, and no other value begins like it. -/
theorem exists_read_number {number : Number} (whole : number.IsWhole) (ends : EndsNumber rest) :
    ∃ first tail, number.written ++ rest = first :: tail ∧
      (first == '-' || first.isDigit) = true ∧ Yields (readNumber first tail) number rest := by
  cases number with
  | natural value =>
      cases spelled : Decimal.digitsOf value ++ rest with
      | nil => exact absurd (List.append_eq_nil_iff.mp spelled).1 Nat.toDigits_ne_nil
      | cons first tail =>
          obtain ⟨isDigit, read⟩ := yields_readNumber_natural whole ends spelled
          exact ⟨first, tail, spelled, by rw [isDigit, Bool.or_true], read⟩
  | negative magnitude =>
      exact ⟨'-', _, rfl, rfl, yields_readNumber_negative whole.1 whole.2 ends⟩
  | real format minus magnitude => exact whole.elim

/-- The first character of a scalar tells it from other values, and the scalar is read back. -/
theorem exists_read_scalar {value : Value} {depth : Nat} (within : value.Within depth)
    (scalar : value.IsScalar) (ends : EndsNumber rest) :
    ∃ first tail, value.written layout level ++ rest = first :: tail ∧
      first ∉ ['[', ']', '\x7b'] ∧ Yields (readScalar first tail) value rest := by
  cases value with
  | null => exact ⟨'n', _, rfl, by decide, yields_readNamed "ull" Value.null 'n' rest⟩
  | bool value =>
      cases value with
      | true => exact ⟨'t', _, rfl, by decide, yields_readNamed "rue" (Value.bool true) 't' rest⟩
      | false =>
          exact ⟨'f', _, rfl, by decide, yields_readNamed "alse" (Value.bool false) 'f' rest⟩
  | string value =>
      refine ⟨'"', value.toList.flatMap writtenChar ++ '"' :: rest, ?_, by decide, ?_⟩
      · rw [Value.written, writtenString, List.append_assoc, List.append_assoc]
        rfl
      · obtain ⟨_, read⟩ := yields_readString value rest
        simp only [readScalar, beq_self_eq_true, ↓reduceIte, read]
        exact ⟨_, rfl⟩
  | number number =>
      have whole : number.IsWhole := by
        cases depth <;> exact within
      obtain ⟨first, tail, spelled, sign, read⟩ := exists_read_number whole ends
      have apart := not_mem_of_number_sign sign
      simp only [List.mem_cons, List.not_mem_nil, or_false, not_or] at apart ⊢
      obtain ⟨quote, null, yes, no, bracket, closing, brace⟩ := apart
      refine ⟨first, tail, spelled, ⟨bracket, closing, brace⟩, ?_⟩
      simp only [readScalar, beq_eq_false_iff_ne.mpr quote, beq_eq_false_iff_ne.mpr null,
        beq_eq_false_iff_ne.mpr yes, beq_eq_false_iff_ne.mpr no, sign, Bool.false_eq_true,
        ↓reduceIte]
      exact read.map_value Value.number
  | list items => exact scalar.elim
  | object members => exact scalar.elim

/-- No value begins like the end of a list. -/
theorem opensElement_of_within {value : Value} {depth : Nat} (within : value.Within depth) :
    value.OpensElement layout level := by
  rcases value.isScalar_or_exists with scalar | ⟨items, rfl⟩ | ⟨members, rfl⟩
  · obtain ⟨first, tail, spelled, apart, _⟩ : ∃ first tail,
        value.written layout level ++ [] = first :: tail ∧ first ∉ ['[', ']', '\x7b'] ∧
          Yields (readScalar first tail) value [] :=
      exists_read_scalar within scalar endsNumber_nil
    refine opensElement_of_cons spelled ?_
    rintro rfl
    exact apart (by decide)
  · exact opensElement_list items
  · exact opensElement_object members

section Members

variable {members : List (String × Value)} {closing whole : List Char} {read : Reader Value}

/-- A member is read with its key, and then the others. -/
theorem yields_readMembersFrom_of_key {key : String} {value : Value}
    {done result : List (String × Value)} {left : List Char} (blank : layout.IsBlank)
    (within : text.length ≤ whole.length)
    (opens : ∃ shorter, nextKey done.isEmpty text = .ok (.element,
      ⟨key.toList.flatMap writtenChar ++
        '"' :: (layout.colon ++ (value.written layout level ++ left)), shorter⟩))
    (reads : ReadsBack read layout level value value) (ends : EndsNumber left)
    (others : ∀ within, Yields (readMembersFrom read whole ((key, value) :: done) left within)
      result rest) :
    Yields (readMembersFrom read whole done text within) result rest := by
  obtain ⟨_, opened⟩ := opens
  obtain ⟨inner, ⟨_, named⟩, ⟨_, parted⟩, found⟩ := exists_read_member blank key value left
  obtain ⟨_, took⟩ := reads _ left ends found
  rw [readMembersFrom]
  simp only [opened, named, parted, took]
  exact others _

/-- At the closing brace the members that were read are the object. -/
theorem yields_readMembersFrom_of_close {done : List (String × Value)}
    (within : text.length ≤ whole.length) (begins : skipBlank text = '\x7d' :: rest) :
    Yields (readMembersFrom read whole done text within) done.reverse rest := by
  obtain ⟨_, closed⟩ := nextKey_close done.isEmpty begins
  rw [readMembersFrom]
  simp only [closed]
  exact ⟨_, rfl⟩

/-- The members that follow another one are read up to the closing bracket. -/
theorem yields_readMembersFrom_afterMember (blank : layout.IsBlank) (are : AreBlanks closing)
    (each : ∀ member ∈ members, ReadsBack read layout level member.2 member.2)
    {done : List (String × Value)} (begun : done ≠ [])
    (within : (afterMember layout level members closing rest).length ≤ whole.length) :
    Yields (readMembersFrom read whole done (afterMember layout level members closing rest) within)
      (done.reverse ++ members) rest := by
  induction members generalizing done with
  | nil =>
      rw [List.append_nil]
      exact yields_readMembersFrom_of_close within (skipBlank_append_cons are rfl rest)
  | cons member members ih =>
      obtain ⟨key, value⟩ := member
      obtain ⟨first, others⟩ := List.forall_mem_cons.mp each
      have flag : done.isEmpty = false := List.isEmpty_eq_false_iff.mpr begun
      have comma : afterMember layout level ((key, value) :: members) closing rest = _ :=
        afterMember_cons key value
      have opens : ∃ shorter, nextKey done.isEmpty
          (afterMember layout level ((key, value) :: members) closing rest) =
            .ok (.element, ⟨key.toList.flatMap writtenChar ++ '"' :: (layout.colon ++
              (value.written layout level ++ afterMember layout level members closing rest)),
                shorter⟩) := by
        rw [flag]
        exact nextKey_later ((congrArg skipBlank comma).trans (skipBlank_cons rfl _))
          (skipBlank_append_cons (blank.before level) rfl _)
      refine yields_readMembersFrom_of_key blank within opens first (endsNumber_afterMember are) ?_
      intro within
      have further : Yields (readMembersFrom read whole ((key, value) :: done)
          (afterMember layout level members closing rest) within)
            (((key, value) :: done).reverse ++ members) rest :=
        ih others (List.cons_ne_nil _ _) within
      rwa [List.reverse_cons, List.append_assoc, List.singleton_append] at further

end Members

/-- What stands behind the opening bracket of a written object is read as its members. -/
theorem yields_readMembersFrom (blank : layout.IsBlank) {members : List (String × Value)}
    {read : Reader Value} {inside : List Char}
    (each : ∀ member ∈ members, ReadsBack read layout (level + 1) member.2 member.2)
    (spelled : (Value.object members).written layout level ++ rest = '\x7b' :: inside) :
    Yields (readMembersFrom read inside [] inside (length_le_self inside)) members rest := by
  cases members with
  | nil =>
      obtain rfl := (List.cons.inj spelled).2
      exact yields_readMembersFrom_of_close (length_le_self _) (skipBlank_cons rfl rest)
  | cons member members =>
      obtain ⟨key, value⟩ := member
      obtain ⟨first, others⟩ := List.forall_mem_cons.mp each
      have reads : ReadsBack read layout (level + 1) value value := first
      rw [written_object_cons] at spelled
      obtain rfl := (List.cons.inj spelled).2
      refine yields_readMembersFrom_of_key blank (length_le_self _)
        (nextKey_first (skipBlank_append_cons (blank.before (level + 1)) rfl _)) reads
        (endsNumber_afterMember (blank.before level)) ?_
      intro within
      exact yields_readMembersFrom_afterMember blank (blank.before level) others
        (List.cons_ne_nil _ _) within

/-- A scalar is read back at every depth. -/
theorem readsBack_readValue_of_isScalar {depth : Nat} {value : Value}
    (within : value.Within depth) (scalar : value.IsScalar) :
    ReadsBack (readValue depth) layout level value value := by
  intro text rest ends begins
  obtain ⟨first, tail, spelled, apart, read⟩ := exists_read_scalar within scalar ends
  simp only [List.mem_cons, List.not_mem_nil, or_false, not_or] at apart
  have bracket : (first == '[') = false := beq_eq_false_iff_ne.mpr apart.1
  have brace : (first == '\x7b') = false := beq_eq_false_iff_ne.mpr apart.2.2
  cases depth with
  | zero =>
      refine yields_readFirst (begins.trans spelled) ?_
      rw [bracket, brace]
      exact read
  | succ depth =>
      refine yields_readFirst (begins.trans spelled) ?_
      rw [bracket, brace]
      exact read

/-- **A written value is read back**, whatever stands behind it. -/
theorem readsBack_readValue (blank : layout.IsBlank) {depth : Nat} {value : Value}
    (within : value.Within depth) : ReadsBack (readValue depth) layout level value value := by
  induction depth generalizing value level with
  | zero =>
      rcases value.isScalar_or_exists with scalar | ⟨items, rfl⟩ | ⟨members, rfl⟩
      · exact readsBack_readValue_of_isScalar within scalar
      · exact within.elim
      · exact within.elim
  | succ depth ih =>
      rcases value.isScalar_or_exists with scalar | ⟨items, rfl⟩ | ⟨members, rfl⟩
      · exact readsBack_readValue_of_isScalar within scalar
      · have each : ReadsEach (readValue depth) layout (level + 1) items items := by
          refine List.forall₂_same.mpr ?_
          intro item member
          exact ⟨opensElement_of_within (within item member), ih (within item member)⟩
        intro text rest ends begins
        obtain ⟨inside, spelled⟩ := exists_written_list items rest
        obtain ⟨_, took⟩ := each.yields_readElementsFrom blank spelled
        refine yields_readFirst (begins.trans spelled) ?_
        rw [if_pos (beq_self_eq_true '['), took]
        exact ⟨_, rfl⟩
      · have each : ∀ member ∈ members,
            ReadsBack (readValue depth) layout (level + 1) member.2 member.2 :=
          fun member among => ih (within member among)
        intro text rest ends begins
        obtain ⟨inside, spelled⟩ := exists_written_object members rest
        obtain ⟨_, took⟩ := yields_readMembersFrom blank each spelled
        refine yields_readFirst (begins.trans spelled) ?_
        rw [if_neg (by decide), if_pos (beq_self_eq_true '\x7b'), took]
        exact ⟨_, rfl⟩

end Locution.Json
