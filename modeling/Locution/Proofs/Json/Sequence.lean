import Mathlib.Data.List.Forall2
import Locution.Proofs.Json.Record

/-! # Written lists are read back

An element of a written list is found behind the opening bracket or behind a comma, and no element
begins like the closing bracket. So a reader that takes each of the written elements for what it is
reads the whole list (`ReadsEach.readsBack_readList`).
-/

namespace Locution.Json

variable {α : Type} {layout : Layout} {level : Nat} {text rest : List Char}

section Steps

/-- A closing bracket ends the elements. -/
theorem nextElement_close (first : Bool) (begins : skipBlank text = ']' :: rest) :
    ∃ within, nextElement first text = .ok (.close, ⟨']' :: rest, within⟩) := by
  unfold nextElement
  split
  · rename_i nothing
    rw [begins] at nothing
    cases nothing
  · rename_i reached
    obtain ⟨_, rfl⟩ := List.cons.inj (begins.symm.trans reached)
    exact ⟨length_le_of_skipBlank begins, rfl⟩
  · rename_i other reached
    exact absurd (List.cons.inj (reached.symm.trans begins)).1 other

/-- The first element stands behind the opening bracket. -/
theorem nextElement_first {c : Char} (begins : skipBlank text = c :: rest) (opens : c ≠ ']') :
    ∃ within, nextElement true text = .ok (.element, ⟨c :: rest, within⟩) := by
  unfold nextElement
  split
  · rename_i nothing
    rw [begins] at nothing
    cases nothing
  · rename_i closed
    exact absurd (List.cons.inj (begins.symm.trans closed)).1 opens
  · rename_i reached
    obtain ⟨rfl, rfl⟩ := List.cons.inj (begins.symm.trans reached)
    exact ⟨length_le_of_skipBlank begins, rfl⟩

/-- A later element stands behind a comma. -/
theorem nextElement_later {c : Char} {between : List Char}
    (begins : skipBlank text = ',' :: between) (reached : skipBlank between = c :: rest)
    (opens : c ≠ ']') :
    ∃ within, nextElement false text = .ok (.element, ⟨between, within⟩) := by
  unfold nextElement
  split
  · rename_i nothing
    rw [begins] at nothing
    cases nothing
  · rename_i closed
    exact absurd (List.cons.inj (begins.symm.trans closed)).1 (by decide)
  · rename_i found
    obtain ⟨rfl, rfl⟩ := List.cons.inj (begins.symm.trans found)
    simp only [Bool.false_eq_true, ↓reduceIte, beq_self_eq_true]
    split
    · rename_i nothing
      rw [reached] at nothing
      cases nothing
    · rename_i closed
      exact absurd (List.cons.inj (reached.symm.trans closed)).1 opens
    · exact ⟨Nat.le_of_lt (length_of_skipBlank begins), rfl⟩

end Steps

/-- Whether a reader takes a written value for an element, whatever stands behind it. -/
def ReadsBack (read : Reader α) (layout : Layout) (level : Nat) (value : Value) (element : α) :
    Prop :=
  ∀ text rest, EndsNumber rest → skipBlank text = value.written layout level ++ rest →
    Yields (read text) element rest

section Whole

variable {read : Reader α} {value : Value} {element : α}

/-- Nothing is left behind a written value. -/
theorem ReadsBack.yields_whole (reads : ReadsBack read layout level value element) :
    Yields (read (value.written layout level)) element [] := by
  have begins : skipBlank (value.written layout level) = value.written layout level ++ [] := by
    have whole := skipBlank_written layout level value []
    rw [List.append_nil] at whole ⊢
    exact whole
  exact reads _ [] endsNumber_nil begins

/-- A written value that is read back is read as a whole text. -/
theorem ReadsBack.readWhole (reads : ReadsBack read layout level value element) :
    readWhole read (value.written layout level) = .ok element :=
  readWhole_of_yields reads.yields_whole rfl

end Whole

/-- Whether a value can be an element of a written list: it does not begin like the end. -/
def Value.OpensElement (layout : Layout) (level : Nat) (value : Value) : Prop :=
  (value.written layout level).head? ≠ some ']'

/-- A written element begins with a character that neither is a blank nor closes a list. -/
theorem Value.OpensElement.exists_cons {value : Value} (opens : value.OpensElement layout level)
    (rest : List Char) :
    ∃ c tail, value.written layout level ++ rest = c :: tail ∧ c ≠ ']' := by
  obtain ⟨c, head, _⟩ := opensPlain_written layout level value
  obtain ⟨tail, spelled⟩ := List.head?_eq_some_iff.mp head
  refine ⟨c, tail ++ rest, by rw [spelled, List.cons_append], ?_⟩
  rintro rfl
  exact opens head

/-- What stands behind an element: the other elements, each after a comma, and the closing
bracket. -/
def afterElement (layout : Layout) (level : Nat) (values : List Value)
    (closing rest : List Char) : List Char :=
  (Value.writtenItems layout level values).flatMap
      (fun part => [','] ++ layout.before level ++ part) ++ (closing ++ ']' :: rest)

variable {values : List Value} {closing : List Char}

/-- Behind an element stands a comma, and then the next element. -/
theorem afterElement_cons (value : Value) :
    afterElement layout level (value :: values) closing rest =
      ',' :: (layout.before level ++ (value.written layout level ++
        afterElement layout level values closing rest)) := by
  rw [afterElement, Value.writtenItems, List.flatMap_cons, List.append_assoc, List.append_assoc,
    ← afterElement]
  rfl

theorem endsNumber_afterElement (are : AreBlanks closing) :
    EndsNumber (afterElement layout level values closing rest) :=
  endsNumber_behind are (.inl rfl) _ rest

/-- Whether each of some written elements is taken for the element of a list at its place. -/
def ReadsEach (read : Reader α) (layout : Layout) (level : Nat) : List Value → List α → Prop :=
  List.Forall₂ fun value element =>
    value.OpensElement layout level ∧ ReadsBack read layout level value element

variable {read : Reader α} {elements : List α} {whole : List Char}

/-- An element is read, and then the others. -/
theorem yields_readElementsFrom_of_element {value : Value} {element : α} {done result : List α}
    {left opened : List Char} (within : text.length ≤ whole.length)
    (opens : ∃ within, nextElement done.isEmpty text = .ok (.element, ⟨opened, within⟩))
    (reached : skipBlank opened = value.written layout level ++ left)
    (reads : ReadsBack read layout level value element) (ends : EndsNumber left)
    (others : ∀ within, Yields (readElementsFrom read whole (element :: done) left within)
      result rest) :
    Yields (readElementsFrom read whole done text within) result rest := by
  obtain ⟨_, next⟩ := opens
  obtain ⟨_, took⟩ := reads opened left ends reached
  rw [readElementsFrom]
  simp only [next, took]
  exact others _

/-- At the closing bracket the elements that were read are the list. -/
theorem yields_readElementsFrom_of_close {done : List α} (within : text.length ≤ whole.length)
    (begins : skipBlank text = ']' :: rest) :
    Yields (readElementsFrom read whole done text within) done.reverse rest := by
  obtain ⟨_, closed⟩ := nextElement_close done.isEmpty begins
  rw [readElementsFrom]
  simp only [closed]
  exact ⟨_, rfl⟩

/-- The elements that follow another one are read up to the closing bracket. -/
theorem ReadsEach.yields_afterElement (blank : layout.IsBlank)
    (each : ReadsEach read layout level values elements) (are : AreBlanks closing) {done : List α}
    (begun : done ≠ []) (within : (afterElement layout level values closing rest).length ≤
      whole.length) :
    Yields (readElementsFrom read whole done (afterElement layout level values closing rest) within)
      (done.reverse ++ elements) rest := by
  -- The induction is on the elements that are left; each is found behind a comma.
  induction each generalizing done with
  | nil =>
      rw [List.append_nil]
      exact yields_readElementsFrom_of_close within (skipBlank_append_cons are rfl rest)
  | @cons value element values elements first others ih =>
      obtain ⟨opens, reads⟩ := first
      have flag : done.isEmpty = false := List.isEmpty_eq_false_iff.mpr begun
      have comma : afterElement layout level (value :: values) closing rest = _ :=
        afterElement_cons value
      have reached : skipBlank (layout.before level ++ (value.written layout level ++
          afterElement layout level values closing rest)) =
            value.written layout level ++ afterElement layout level values closing rest := by
        rw [skipBlank_append (blank.before level), skipBlank_written]
      obtain ⟨c, tail, spelled, apart⟩ :=
        opens.exists_cons (afterElement layout level values closing rest)
      refine yields_readElementsFrom_of_element within ?_ reached reads
        (endsNumber_afterElement are) ?_
      · rw [flag]
        exact nextElement_later ((congrArg skipBlank comma).trans (skipBlank_cons rfl _))
          (reached.trans spelled) apart
      · intro within
        have further : Yields (readElementsFrom read whole (element :: done)
            (afterElement layout level values closing rest) within)
              ((element :: done).reverse ++ elements) rest :=
          ih (List.cons_ne_nil _ _) within
        rwa [List.reverse_cons, List.append_assoc, List.singleton_append] at further

/-- A written list begins with a bracket and its first element. -/
theorem written_list_cons (value : Value) (rest : List Char) :
    (Value.list (value :: values)).written layout level ++ rest =
      '[' :: (layout.before (level + 1) ++ (value.written layout (level + 1) ++
        afterElement layout (level + 1) values (layout.before level) rest)) := by
  simp only [Value.written, Value.writtenItems, enclosed, afterElement, List.append_assoc,
    List.cons_append, List.nil_append]

theorem exists_written_list (values : List Value) (rest : List Char) :
    ∃ inside, (Value.list values).written layout level ++ rest = '[' :: inside := by
  cases values with
  | nil => exact ⟨']' :: rest, rfl⟩
  | cons value values => exact ⟨_, written_list_cons value rest⟩

/-- A value that does not begin with a closing bracket can be an element. -/
theorem opensElement_of_cons {value : Value} {first : Char} {inside : List Char}
    (spelled : value.written layout level ++ [] = first :: inside) (other : first ≠ ']') :
    value.OpensElement layout level := by
  rw [List.append_nil] at spelled
  rw [Value.OpensElement, spelled]
  exact fun closing => other (Option.some.inj closing)

theorem opensElement_list (values : List Value) :
    (Value.list values).OpensElement layout level := by
  obtain ⟨inside, spelled⟩ : ∃ inside, (Value.list values).written layout level ++ [] = _ :=
    exists_written_list values []
  exact opensElement_of_cons spelled (by decide)

theorem opensElement_object (members : List (String × Value)) :
    (Value.object members).OpensElement layout level := by
  obtain ⟨inside, spelled⟩ : ∃ inside, (Value.object members).written layout level ++ [] = _ :=
    exists_written_object members []
  exact opensElement_of_cons spelled (by decide)

/-- What stands behind the opening bracket of a written list is read as its elements. -/
theorem ReadsEach.yields_readElementsFrom (blank : layout.IsBlank)
    (each : ReadsEach read layout (level + 1) values elements) {inside : List Char}
    (spelled : (Value.list values).written layout level ++ rest = '[' :: inside) :
    Yields (readElementsFrom read inside [] inside (length_le_self inside)) elements rest := by
  cases each with
  | nil =>
      obtain rfl := (List.cons.inj spelled).2
      exact yields_readElementsFrom_of_close (length_le_self _) (skipBlank_cons rfl rest)
  | @cons value element values elements first others =>
      obtain ⟨opens, reads⟩ := first
      rw [written_list_cons] at spelled
      obtain rfl := (List.cons.inj spelled).2
      have ends : EndsNumber
          (afterElement layout (level + 1) values (layout.before level) rest) :=
        endsNumber_afterElement (blank.before level)
      obtain ⟨c, tail, split, apart⟩ :=
        opens.exists_cons (afterElement layout (level + 1) values (layout.before level) rest)
      have reached : skipBlank (layout.before (level + 1) ++ (value.written layout (level + 1) ++
          afterElement layout (level + 1) values (layout.before level) rest)) = c :: tail := by
        rw [skipBlank_append (blank.before (level + 1)), skipBlank_written, split]
      refine yields_readElementsFrom_of_element (length_le_self _)
        (nextElement_first reached apart) ?_ reads ends ?_
      · rw [← split, skipBlank_written]
      · intro within
        have following : ReadsEach read layout (level + 1) values elements := others
        exact following.yields_afterElement blank (blank.before level) (List.cons_ne_nil _ _) within

/-- A written list is read as its elements. -/
theorem ReadsEach.readsBack_readList (blank : layout.IsBlank)
    (each : ReadsEach read layout (level + 1) values elements) :
    ReadsBack (readList read) layout level (.list values) elements := by
  intro text rest _ begins
  obtain ⟨inside, spelled⟩ := exists_written_list values rest
  refine yields_readFirst (begins.trans spelled) (Yields.map_after ?_ '[')
  exact each.yields_readElementsFrom blank spelled

end Locution.Json
