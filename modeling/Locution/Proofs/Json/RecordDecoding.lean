import Locution.Proofs.Json.Decoding

/-! # Reading records of one field

A record with one field is an object in which the key of the field stands once at most, whatever
stands under other keys, or a list of the field's value alone (`IsRecord`). One step of reading an
object takes one member (`exists_of_readFieldsFrom`), and the induction on the members gives what
the whole object is read as (`decodes_readRecord`).
-/

namespace Locution.Json

variable {σ α β : Type}

section Keys

variable {text rest more inside : List Char} {first : Bool}

/-- Where a part follows that opens with a quotation mark, the reader goes on to a key. -/
theorem Follows.exists_nextKey (follows : Follows first text more)
    (opens : skipBlank more = '"' :: inside) :
    ∃ shorter, nextKey first text = .ok (.element, ⟨inside, shorter⟩) := by
  cases follows with
  | first => exact nextKey_first opens
  | later comma => exact nextKey_later comma opens

/-- The reader closes an object only at a closing brace. -/
theorem skipBlank_of_nextKey_close {left : {left : List Char // left.length < text.length}}
    (next : nextKey first text = .ok (.close, left)) : skipBlank text = '\x7d' :: left.1 := by
  unfold nextKey at next
  split at next
  · cases next
  · rename_i c inside found
    dsimp only at next
    split at next
    · rename_i brace
      obtain rfl : c = '\x7d' := beq_iff_eq.mp brace
      cases next
      exact found
    · split at next
      · split at next <;> cases next
      · split at next
        · split at next <;> cases next
        · cases next

/-- The reader goes on to a key only where one may follow. -/
theorem exists_of_nextKey_element {left : {left : List Char // left.length < text.length}}
    (next : nextKey first text = .ok (.element, left)) :
    ∃ more, Follows first text more ∧ skipBlank more = '"' :: left.1 := by
  unfold nextKey at next
  split at next
  · cases next
  · rename_i c inside found
    dsimp only at next
    split at next
    · cases next
    · split at next
      · rename_i isFirst
        subst isFirst
        split at next
        · rename_i quote
          obtain rfl : c = '"' := beq_iff_eq.mp quote
          cases next
          exact ⟨text, .first, found⟩
        · cases next
      · rename_i notFirst
        obtain rfl : first = false := Bool.eq_false_iff.mpr notFirst
        split at next
        · rename_i comma
          obtain rfl : c = ',' := beq_iff_eq.mp comma
          split at next
          · cases next
          · rename_i keyed
            cases next
            exact ⟨inside, .later found, keyed⟩
          · cases next
          · cases next
        · cases next

end Keys

section Objects

variable {shape : Shape σ α} {whole text rest : List Char} {first : Bool} {draft : σ} {result : α}

/-- Whether the value of a key is read into a draft, or skipped when no field has the key. -/
def ReadsMember (fields : List (Field σ)) (key : String) (draft next : σ)
    (text rest : List Char) : Prop :=
  match fields.find? (·.name == key) with
  | some field => field.filled draft = false ∧ Yields (field.read draft text) next rest
  | none => Yields (skipValue text) () rest ∧ next = draft

/-- Behind a key stand a colon and the value of its field, or one that is skipped. -/
theorem yields_readFieldValue_iff (known : Option (Field σ)) {next : σ} :
    Yields (readFieldValue known draft text) next rest ↔
      ∃ inner, skipBlank text = ':' :: inner ∧
        match known with
        | some field => Yields (field.read draft inner) next rest
        | none => Yields (skipValue inner) () rest ∧ next = draft := by
  constructor
  · rintro ⟨_, read⟩
    unfold readFieldValue at read
    split at read
    · cases read
    · rename_i colon parted
      refine ⟨colon.rest, skipBlank_of_readColon ⟨colon.shorter, parted⟩, ?_⟩
      cases known with
      | some field => exact (yields_map_widen_iff _).mp ⟨_, read⟩
      | none => exact (yields_map_made_iff draft _).mp ⟨_, read⟩
  · rintro ⟨inner, colon, read⟩
    obtain ⟨_, parted⟩ := yields_readColon colon
    simp only [readFieldValue, parted]
    cases known with
    | some field => exact Yields.map_widen read _
    | none => exact (yields_map_made_iff draft _).mpr read

/-- **One step through an object**: it is closed when no field is missed, or its next member is
read. -/
theorem exists_of_readFieldsFrom {within : text.length ≤ whole.length}
    (yields : Yields (readFieldsFrom shape whole first draft text within) result rest) :
    (skipBlank text = '\x7d' :: rest ∧ shape.missing? draft = none ∧
      shape.finish draft = result) ∨
    ∃ more key inner next after, ∃ further : after.length ≤ whole.length,
      Follows first text more ∧ StandsKey (unitsOf key) more inner ∧
      ReadsMember shape.fields key draft next inner after ∧
      Yields (readFieldsFrom shape whole false next after further) result rest := by
  obtain ⟨_, read⟩ := yields
  rw [readFieldsFrom] at read
  split at read
  · cases read
  · rename_i next
    split at read
    · cases read
    · rename_i complete
      cases read
      exact .inl ⟨skipBlank_of_nextKey_close next, complete, rfl⟩
  · rename_i opened shorter next
    split at read
    · cases read
    · rename_i key named
      dsimp only at read
      split at read
      · cases read
      · rename_i unfilled
        split at read
        · cases read
        · rename_i filled took
          obtain ⟨more, follows, opens⟩ := exists_of_nextKey_element next
          have string := yields_readString_iff.mp ⟨key.shorter, named⟩
          obtain ⟨inner, colon, member⟩ := (yields_readFieldValue_iff _).mp ⟨filled.shorter, took⟩
          refine .inr ⟨more, key.value, inner, filled.value, filled.rest, _, follows,
            .key opens string colon, ?_, _, read⟩
          unfold ReadsMember
          cases known : shape.fields.find? (·.name == key.value) with
          | none =>
              rw [known] at member
              exact member
          | some field =>
              rw [known] at member unfilled
              exact ⟨Bool.eq_false_iff.mpr unfilled, member⟩

/-- A member that is read leaves the others to be read from the next draft. -/
theorem yields_readFieldsFrom_of_member {within : text.length ≤ whole.length} {key : String}
    {next : σ} {more inner after : List Char} (follows : Follows first text more)
    (stands : StandsKey (unitsOf key) more inner)
    (member : ReadsMember shape.fields key draft next inner after)
    (others : ∀ within, Yields (readFieldsFrom shape whole false next after within) result rest) :
    Yields (readFieldsFrom shape whole first draft text within) result rest := by
  obtain ⟨opens, string, colon⟩ := stands
  obtain ⟨_, opened⟩ := follows.exists_nextKey opens
  obtain ⟨_, named⟩ := yields_readString_iff.mpr string
  unfold ReadsMember at member
  cases known : shape.fields.find? (·.name == key) with
  | none =>
      rw [known] at member
      obtain ⟨_, took⟩ := (yields_readFieldValue_iff none).mpr ⟨inner, colon, member⟩
      rw [readFieldsFrom]
      simp only [opened, named, known, Option.any_none, Bool.false_eq_true, ↓reduceIte, took]
      exact others _
  | some field =>
      rw [known] at member
      obtain ⟨unfilled, member⟩ := member
      obtain ⟨_, took⟩ := (yields_readFieldValue_iff (some field)).mpr ⟨inner, colon, member⟩
      rw [readFieldsFrom]
      simp only [opened, named, known, Option.any_some, unfilled, Bool.false_eq_true,
        ↓reduceIte, took]
      exact others _

end Objects

section Lengths

variable {text rest more : List Char} {first : Bool}

theorem Follows.length_le (follows : Follows first text more) : more.length ≤ text.length := by
  cases follows with
  | first => exact Nat.le_refl _
  | later comma => exact Nat.le_of_lt (length_of_skipBlank comma)

theorem StandsKey.length_lt {units : List Nat} (stands : StandsKey units text rest) :
    rest.length < text.length := by
  obtain ⟨opens, string, colon⟩ := stands
  obtain ⟨shorter, _⟩ := yields_skipString_iff.mpr ⟨units, string⟩
  exact Nat.lt_trans (length_of_skipBlank colon) (Nat.lt_trans shorter (length_of_skipBlank opens))

theorem ReadsMember.length_lt {fields : List (Field σ)} {key : String} {draft next : σ}
    (reads : ReadsMember fields key draft next text rest) : rest.length < text.length := by
  unfold ReadsMember at reads
  split at reads
  · obtain ⟨_, shorter, _⟩ := reads
    exact shorter
  · obtain ⟨⟨shorter, _⟩, _⟩ := reads
    exact shorter

end Lengths

section OneField

/-- The one field of a record. -/
def oneField (name : String) (required : Bool) (read : Reader β) : Field (Option β) :=
  ⟨name, required, (·.isSome), fun _ text => (read text).map (·.map some)⟩

/-- The values of a key in an object, the first one first. -/
def valuesOf (name : String) (members : List (List Nat × Tree)) : List Tree :=
  (members.filter fun member => member.1 == unitsOf name).map (·.2)

/-- Whether values fill in a field that may be filled in already; two values never do. -/
inductive FillsOne (means : Tree → β → Prop) : Option β → List Tree → Option β → Prop where
  | none {draft : Option β} : FillsOne means draft [] draft
  | one {tree : Tree} {value : β} (meant : means tree value) :
      FillsOne means .none [tree] (some value)

/-- Whether a tree is a record of one field with a value that may be missing: an object whose keys
are texts, or a list. -/
inductive IsRecord (name : String) (required : Bool) (means : Tree → β → Prop) :
    Tree → Option β → Prop where
  | object {members : List (List Nat × Tree)} {value? : Option β}
      (keys : ∀ member ∈ members, ∃ key, member.1 = unitsOf key)
      (fills : FillsOne means none (valuesOf name members) value?)
      (complete : required = true → value?.isSome = true) :
      IsRecord name required means (.object members) value?
  | list {items : List Tree} {value? : Option β} (fills : FillsOne means none items value?)
      (complete : required = true → value?.isSome = true) :
      IsRecord name required means (.list items) value?

/-- A field that is required has a value. -/
theorem IsRecord.exists_value {name : String} {means : Tree → β → Prop} {tree : Tree}
    {value? : Option β} (is : IsRecord name true means tree value?) :
    ∃ value, value? = some value := by
  cases is with
  | object _ _ complete => exact Option.isSome_iff_exists.mp (complete rfl)
  | list _ complete => exact Option.isSome_iff_exists.mp (complete rfl)

variable {name key : String} {required : Bool} {read : Reader β} {means : Tree → β → Prop}
  {draft next last : Option β} {tree : Tree} {trees : List Tree}
  {members : List (List Nat × Tree)} {shape : Shape (Option β) α} {result : α}
  {whole text rest : List Char} {first : Bool}

/-- A field is filled by one value at most. -/
theorem fillsOne_cons_iff : FillsOne means draft (tree :: trees) last ↔
    draft = none ∧ ∃ value, means tree value ∧ FillsOne means (some value) trees last := by
  constructor
  · rintro (_ | meant)
    exact ⟨rfl, _, meant, .none⟩
  · rintro ⟨rfl, value, meant, fills⟩
    cases fills
    exact .one meant

/-- A member with the name of the field gives it a value. -/
theorem valuesOf_cons_self (name : String) (tree : Tree) (members : List (List Nat × Tree)) :
    valuesOf name ((unitsOf name, tree) :: members) = tree :: valuesOf name members := by
  have same := beq_self_eq_true (unitsOf name)
  rw [valuesOf, List.filter_cons, if_pos same, List.map_cons, ← valuesOf]

/-- A member with another name gives the field no value. -/
theorem valuesOf_cons_of_ne (other : key ≠ name) (tree : Tree)
    (members : List (List Nat × Tree)) :
    valuesOf name ((unitsOf key, tree) :: members) = valuesOf name members := by
  have apart : ¬ (unitsOf key == unitsOf name) = true := by
    rw [beq_iff_eq, unitsOf_inj]
    exact other
  rw [valuesOf, List.filter_cons, if_neg apart, ← valuesOf]

/-- An object with the field alone is a record. -/
theorem isRecord_of_only {value : β} (name : String) (required : Bool)
    (meant : means tree value) :
    IsRecord name required means (.object [(unitsOf name, tree)]) (some value) := by
  refine .object ?_ ?_ fun _ => rfl
  · intro member only
    exact ⟨name, congrArg Prod.fst (List.mem_singleton.mp only)⟩
  · rw [valuesOf_cons_self]
    exact .one meant

/-- Nothing is missing when the field is filled or not required. -/
theorem missing?_eq_none_iff (only : shape.fields = [oneField name required read]) :
    shape.missing? draft = none ↔ (required = true → draft.isSome = true) := by
  rw [Shape.missing?, only, Option.map_eq_none_iff, List.find?_eq_none]
  cases required <;> cases draft <;> simp [oneField]

/-- The value of the field is read once, into an empty draft. -/
theorem readsMember_self_iff : ReadsMember [oneField name required read] name draft next text rest ↔
    draft = none ∧ ∃ value, Yields (read text) value rest ∧ some value = next := by
  have known : [oneField name required read].find? (·.name == name) =
      some (oneField name required read) :=
    List.find?_cons_of_pos (beq_self_eq_true name)
  rw [ReadsMember, known]
  dsimp only [oneField]
  rw [Option.isSome_eq_false_iff, Option.isNone_iff_eq_none, yields_map_value_iff]

/-- The value of another key is skipped. -/
theorem readsMember_iff_of_ne (other : key ≠ name) :
    ReadsMember [oneField name required read] key draft next text rest ↔
      Yields (skipValue text) () rest ∧ next = draft := by
  have unknown : [oneField name required read].find? (·.name == key) = none :=
    List.find?_cons_of_neg (by rwa [oneField, beq_iff_eq, eq_comm])
  rw [ReadsMember, unknown]

/-- The members that are left fill in the field. -/
theorem Decodes.yields_readFieldsFrom (decodes : Decodes read means)
    (only : shape.fields = [oneField name required read])
    (keys : ∀ member ∈ members, ∃ key, member.1 = unitsOf key)
    (fills : FillsOne means draft (valuesOf name members) last)
    (complete : required = true → last.isSome = true)
    (stands : Stands (.members first members) text rest) (within : text.length ≤ whole.length) :
    Yields (readFieldsFrom shape whole first draft text within) (shape.finish last) rest := by
  -- The induction is on the members that are left; only the field's own key changes the draft.
  induction members generalizing first draft text with
  | nil =>
      obtain ⟨⟩ | _ := fills
      cases stands with
      | closeObject closes =>
          exact yields_readFieldsFrom_of_close within closes
            ((missing?_eq_none_iff only).mpr complete)
  | cons member members ih =>
      obtain ⟨⟨key, proper⟩, others⟩ := List.forall_mem_cons.mp keys
      cases stands with
      | @member _ units tree _ _ more inner after _ follows stands value behind =>
          obtain rfl : units = unitsOf key := proper
          by_cases same : key = name
          · subst same
            rw [valuesOf_cons_self, fillsOne_cons_iff] at fills
            obtain ⟨rfl, filling, meant, fills⟩ := fills
            have took := decodes.complete value behind.endsNumber_of_members meant
            have member : ReadsMember shape.fields key none (some filling) inner after := by
              rw [only]
              exact readsMember_self_iff.mpr ⟨rfl, filling, took, rfl⟩
            exact yields_readFieldsFrom_of_member follows stands member (ih others fills behind)
          · rw [valuesOf_cons_of_ne same] at fills
            have skipped := value.yields_skipValue behind.endsNumber_of_members
            have member : ReadsMember shape.fields key draft draft inner after := by
              rw [only]
              exact (readsMember_iff_of_ne same).mpr ⟨skipped, rfl⟩
            exact yields_readFieldsFrom_of_member follows stands member (ih others fills behind)

/-- What is read as the end of an object says members that fill in the field. -/
theorem Decodes.exists_members (decodes : Decodes read means)
    (only : shape.fields = [oneField name required read]) {within : text.length ≤ whole.length}
    (yields : Yields (readFieldsFrom shape whole first draft text within) result rest) :
    ∃ members last, Stands (.members first members) text rest ∧
      (∀ member ∈ members, ∃ key, member.1 = unitsOf key) ∧
      FillsOne means draft (valuesOf name members) last ∧
      (required = true → last.isSome = true) ∧ shape.finish last = result := by
  induction size : text.length using Nat.strongRecOn generalizing first draft text with
  | ind count ih =>
      rcases exists_of_readFieldsFrom yields with ⟨closes, complete, rfl⟩ |
        ⟨more, key, inner, next, after, further, follows, stands, member, yields⟩
      · exact ⟨[], draft, .closeObject closes, fun _ => nofun, .none,
          (missing?_eq_none_iff only).mp complete, rfl⟩
      · have less : after.length < count := by
          have := follows.length_le
          have := stands.length_lt
          have := member.length_lt
          omega
        obtain ⟨members, last, others, keys, fills, complete, rfl⟩ := ih _ less yields rfl
        rw [only] at member
        by_cases same : key = name
        · subst same
          obtain ⟨rfl, value, took, rfl⟩ := readsMember_self_iff.mp member
          obtain ⟨tree, value, meant⟩ := decodes.sound took
          refine ⟨(unitsOf key, tree) :: members, last, .member follows stands value others,
            List.forall_mem_cons.mpr ⟨⟨key, rfl⟩, keys⟩, ?_, complete, rfl⟩
          rw [valuesOf_cons_self]
          exact fillsOne_cons_iff.mpr ⟨rfl, _, meant, fills⟩
        · obtain ⟨skipped, rfl⟩ := (readsMember_iff_of_ne same).mp member
          obtain ⟨tree, value⟩ := exists_stands_of_skipValue skipped
          refine ⟨(unitsOf key, tree) :: members, last, .member follows stands value others,
            List.forall_mem_cons.mpr ⟨⟨key, rfl⟩, keys⟩, ?_, complete, rfl⟩
          rwa [valuesOf_cons_of_ne same]

/-- A list ends at its closing bracket. -/
theorem yields_readListEnd_iff :
    Yields (readListEnd text) () rest ↔ skipBlank text = ']' :: rest := by
  constructor
  · rintro ⟨_, read⟩
    unfold readListEnd at read
    split at read
    · rename_i found
      cases read
      exact found
    · split at read <;> cases read
    · cases read
    · cases read
  · intro closes
    unfold readListEnd
    split
    · rename_i found
      obtain ⟨_, rfl⟩ := List.cons.inj (found.symm.trans closes)
      exact ⟨_, rfl⟩
    · rename_i found
      cases found.symm.trans closes
    · rename_i found
      cases found.symm.trans closes
    · rename_i other _ _
      exact absurd closes (other _)

/-- The items of a list fill in the field at its place. -/
theorem Decodes.exists_readPlacesFrom (decodes : Decodes read means) (title name : String)
    (fills : FillsOne means none trees last) (complete : required = true → last.isSome = true)
    (stands : Stands (.items true trees) text rest) (within : text.length ≤ whole.length) :
    ∃ left, readPlacesFrom title whole 0 none [oneField name required read] text within =
      .ok (last, left) ∧ skipBlank left.1 = ']' :: rest := by
  cases fills with
  | none =>
      have optional : required = false :=
        Bool.eq_false_iff.mpr fun needed => nomatch complete needed
      subst optional
      cases stands with
      | closeList closes =>
          obtain ⟨_, next⟩ := nextElement_close true closes
          simp only [readPlacesFrom, beq_self_eq_true, next, oneField, Bool.false_eq_true,
            ↓reduceIte]
          exact ⟨_, rfl, skipBlank_cons rfl rest⟩
  | one meant =>
      cases stands with
      | item follows value others =>
          obtain ⟨left, _, next, same⟩ := exists_nextElement follows value
          have took := decodes.complete (value.of_skipBlank same) others.endsNumber_of_items meant
          obtain ⟨_, took⟩ := took.map_value some
          simp only [readPlacesFrom, beq_self_eq_true, next, oneField, took]
          cases others with
          | closeList closes => exact ⟨_, rfl, closes⟩

/-- What is read at the place of the field says items that fill it in. -/
theorem Decodes.exists_items_of_readPlacesFrom (decodes : Decodes read means) {title : String}
    {within : text.length ≤ whole.length} {left : {left : List Char // left.length ≤ whole.length}}
    (places : readPlacesFrom title whole 0 none [oneField name required read] text within =
      .ok (last, left)) (closes : skipBlank left.1 = ']' :: rest) :
    ∃ trees, Stands (.items true trees) text rest ∧ FillsOne means none trees last ∧
      (required = true → last.isSome = true) := by
  rw [readPlacesFrom] at places
  split at places
  · cases places
  · rename_i next
    split at places
    · cases places
    · rename_i optional
      obtain ⟨after, split, found⟩ := exists_of_nextElement_close next
      cases places
      rw [split, skipBlank_cons rfl] at closes
      obtain ⟨_, rfl⟩ := List.cons.inj closes
      exact ⟨[], .closeList found, .none, fun needed => absurd needed optional⟩
  · rename_i next
    split at places
    · cases places
    · rename_i filled took
      obtain ⟨more, follows, same⟩ := exists_of_nextElement_element next
      obtain ⟨value, took, filling⟩ := (yields_map_value_iff _).mp ⟨filled.shorter, took⟩
      obtain ⟨tree, stands, meant⟩ := decodes.sound took
      cases places
      rw [← filling]
      exact ⟨[tree], .item follows (stands.of_skipBlank same) (.closeList closes), .one meant,
        fun _ => rfl⟩

/-- **A reader of records of one field decodes them** as objects and as lists. -/
theorem decodes_readRecord (decodes : Decodes read means)
    (only : shape.fields = [oneField name required read]) (blank : shape.blank = none) :
    Decodes (readRecord shape) fun tree result =>
      ∃ value?, IsRecord name required means tree value? ∧ shape.finish value? = result where
  complete := by
    rintro tree text rest result stands ends ⟨value?, is, rfl⟩
    cases is with
    | object keys fills complete =>
        cases stands with
        | object opens inner =>
            refine yields_readFirst opens ?_
            rw [if_pos (by rfl), blank]
            exact (decodes.yields_readFieldsFrom only keys fills complete inner _).map_after _
    | list fills complete =>
        cases stands with
        | list opens inner =>
            refine yields_readFirst opens ?_
            obtain ⟨⟨left, _⟩, places, closes⟩ := decodes.exists_readPlacesFrom
              shape.titleWithCount name fills complete inner (length_le_self _)
            simp only [Char.reduceBEq, Bool.false_eq_true, ↓reduceIte, only, blank, places]
            exact (yields_map_made_iff _ _).mpr ⟨yields_readListEnd_iff.mpr closes, rfl⟩
  sound := by
    intro text rest result yields
    obtain ⟨first, inside, begins, read⟩ := exists_of_readFirst yields
    split at read
    · rename_i brace
      obtain rfl : first = '\x7b' := beq_iff_eq.mp brace
      rw [blank] at read
      obtain ⟨members, last, inner, keys, fills, complete, rfl⟩ :=
        decodes.exists_members only ((yields_map_after_iff _).mp read)
      exact ⟨.object members, .object begins inner, last, .object keys fills complete, rfl⟩
    · split at read
      · rename_i bracket
        obtain rfl : first = '[' := beq_iff_eq.mp bracket
        rw [only, blank] at read
        split at read
        · obtain ⟨_, impossible⟩ := read
          cases impossible
        · rename_i last left _ places
          obtain ⟨closed, rfl⟩ := (yields_map_made_iff _ _).mp read
          obtain ⟨trees, inner, fills, complete⟩ :=
            decodes.exists_items_of_readPlacesFrom places (yields_readListEnd_iff.mp closed)
          exact ⟨.list trees, .list begins inner, last, .list fills complete, rfl⟩
      · obtain ⟨_, impossible⟩ := read
        cases impossible

/-- A reader of records whose only field is required decodes the records that have it. -/
theorem decodes_readRecord_of_required (decodes : Decodes read means)
    (only : shape.fields = [oneField name true read]) (blank : shape.blank = none)
    {finish : β → α} (finishes : ∀ value, shape.finish (some value) = finish value) :
    Decodes (readRecord shape) fun tree result =>
      ∃ value, IsRecord name true means tree (some value) ∧ finish value = result := by
  refine (decodes_readRecord decodes only blank).congr fun tree result => ?_
  constructor
  · rintro ⟨value?, is, rfl⟩
    obtain ⟨value, rfl⟩ := is.exists_value
    exact ⟨value, is, (finishes value).symm⟩
  · rintro ⟨value, is, rfl⟩
    exact ⟨some value, is, finishes value⟩

end OneField

end Locution.Json
