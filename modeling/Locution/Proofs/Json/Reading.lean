import Locution.Json.Printer

/-! # What reading comes to

Reading yields a value and leaves a rest (`Yields`). A reader that looks at the first character
after blanks yields what it makes of that character (`yields_readFirst`), so blanks before a value
never count. Written truth values and null are read back (`yields_readBool`, `yields_readOptional`).
-/

namespace Locution.Json

variable {α β : Type}

/-- Whether reading comes to a value and leaves a rest. -/
def Yields {text : List Char} (outcome : Except Fault (Parsed text α)) (value : α)
    (rest : List Char) : Prop :=
  ∃ shorter, outcome = .ok ⟨value, rest, shorter⟩

section

variable {text longer rest : List Char} {outcome : Except Fault (Parsed text α)} {value : α}

/-- What is yielded does not depend on how long the text is taken to be. -/
theorem Yields.map_widen (yields : Yields outcome value rest)
    (within : text.length ≤ longer.length) :
    Yields (outcome.map (·.widen within)) value rest := by
  obtain ⟨shorter, rfl⟩ := yields
  exact ⟨_, rfl⟩

/-- What is yielded does not depend on a character in front. -/
theorem Yields.map_after (yields : Yields outcome value rest) (first : Char) :
    Yields (outcome.map (·.after first)) value rest :=
  yields.map_widen _

/-- A change of what is read changes what is yielded. -/
theorem Yields.map_value (yields : Yields outcome value rest) (f : α → β) :
    Yields (outcome.map (·.map f)) (f value) rest := by
  obtain ⟨shorter, rfl⟩ := yields
  exact ⟨shorter, rfl⟩

/-- A reading yields one value and one rest. -/
theorem Yields.unique {other : α} {left : List Char} (yields : Yields outcome value rest)
    (also : Yields outcome other left) : value = other ∧ rest = left := by
  obtain ⟨_, one⟩ := yields
  obtain ⟨_, two⟩ := also
  cases one.symm.trans two
  exact ⟨rfl, rfl⟩

/-- A reading that is counted against a longer text yields the same. -/
theorem yields_map_widen_iff (within : text.length ≤ longer.length) :
    Yields (outcome.map (·.widen within)) value rest ↔ Yields outcome value rest := by
  constructor
  · rintro ⟨_, read⟩
    cases outcome with
    | error fault => cases read
    | ok parsed =>
        cases read
        exact ⟨parsed.shorter, rfl⟩
  · intro yields
    exact yields.map_widen within

theorem yields_map_after_iff (first : Char) :
    Yields (outcome.map (·.after first)) value rest ↔ Yields outcome value rest :=
  yields_map_widen_iff _

/-- A changed reading yields the changes of what the reading yields. -/
theorem yields_map_value_iff (f : α → β) {made : β} :
    Yields (outcome.map (·.map f)) made rest ↔
      ∃ value, Yields outcome value rest ∧ f value = made := by
  constructor
  · rintro ⟨_, read⟩
    cases outcome with
    | error fault => cases read
    | ok parsed =>
        cases read
        exact ⟨parsed.value, ⟨parsed.shorter, rfl⟩, rfl⟩
  · rintro ⟨value, yields, rfl⟩
    exact yields.map_value f

/-- What is read is thrown away for another value. -/
theorem yields_map_made_iff {outcome : Except Fault (Parsed text Unit)} (made : β)
    (within : text.length ≤ longer.length) {other : β} :
    Yields (outcome.map fun parsed => (parsed.map fun _ => made).widen within) other rest ↔
      Yields outcome () rest ∧ other = made := by
  constructor
  · rintro ⟨_, read⟩
    cases outcome with
    | error fault => cases read
    | ok parsed =>
        cases read
        exact ⟨⟨parsed.shorter, rfl⟩, rfl⟩
  · rintro ⟨⟨_, rfl⟩, rfl⟩
    exact ⟨_, rfl⟩

end

/-- Whether a text consists of blanks. -/
def AreBlanks (text : List Char) : Prop :=
  ∀ c ∈ text, isLayout c = true

variable {blanks text rest left : List Char} {first : Char} {value : α}

/-- Blanks are skipped together with those behind them. -/
theorem skipBlank_append (are : AreBlanks blanks) (text : List Char) :
    skipBlank (blanks ++ text) = skipBlank text :=
  List.dropWhile_append_of_pos are

theorem skipBlank_cons (other : isLayout first = false) (text : List Char) :
    skipBlank (first :: text) = first :: text :=
  List.dropWhile_cons_of_neg (Bool.eq_false_iff.mp other)

/-- Blanks are skipped up to the first other character. -/
theorem skipBlank_append_cons (are : AreBlanks blanks) (other : isLayout first = false)
    (text : List Char) : skipBlank (blanks ++ first :: text) = first :: text := by
  rw [skipBlank_append are, skipBlank_cons other]

/-- Reading begins at the first character that is no blank. -/
theorem yields_readFirst
    {read : (first : Char) → (rest : List Char) → Except Fault (Parsed (first :: rest) α)}
    (begins : skipBlank text = first :: rest) (yields : Yields (read first rest) value left) :
    Yields (readFirst read text) value left := by
  unfold readFirst
  split
  · rename_i nothing
    rw [begins] at nothing
    cases nothing
  · rename_i found
    obtain ⟨rfl, rfl⟩ := List.cons.inj (begins.symm.trans found)
    exact yields.map_widen _

/-- Reading succeeds only where another character than a blank is left. -/
theorem exists_of_readFirst
    {read : (first : Char) → (rest : List Char) → Except Fault (Parsed (first :: rest) α)}
    (yields : Yields (readFirst read text) value left) :
    ∃ first rest, skipBlank text = first :: rest ∧ Yields (read first rest) value left := by
  unfold readFirst at yields
  split at yields
  · obtain ⟨_, impossible⟩ := yields
    cases impossible
  · rename_i first rest found
    exact ⟨first, rest, found, (yields_map_widen_iff _).mp yields⟩

/-- A reading that fails at the first character fails. -/
theorem readFirst_error
    {read : (first : Char) → (rest : List Char) → Except Fault (Parsed (first :: rest) α)}
    {fault : Fault} (begins : skipBlank text = first :: rest)
    (failed : read first rest = .error fault) : readFirst read text = .error fault := by
  unfold readFirst
  split
  · rename_i nothing
    rw [begins] at nothing
    cases nothing
  · rename_i found
    obtain ⟨rfl, rfl⟩ := List.cons.inj (begins.symm.trans found)
    rw [failed]
    rfl

/-- A word is read where it stands. -/
theorem readWord_append (word rest : List Char) : readWord word (word ++ rest) = .ok rest := by
  induction word with
  | nil => rfl
  | cons letter word ih => rw [List.cons_append, readWord, beq_self_eq_true, if_pos rfl, ih]

/-- A named value is read where the rest of its name stands. -/
theorem yields_readNamed (tail : String) (value : α) (first : Char) (rest : List Char) :
    Yields (readNamed tail value first (tail.toList ++ rest)) value rest := by
  have whole := readWord_append tail.toList rest
  unfold readNamed
  split
  · rename_i read
    obtain rfl := Except.ok.inj (whole.symm.trans read)
    exact ⟨_, rfl⟩
  · rename_i fault
    rw [whole] at fault
    cases fault

/-- Where a word was read, it stood. -/
theorem eq_append_of_readWord {word text rest : List Char} (read : readWord word text = .ok rest) :
    text = word ++ rest := by
  fun_induction readWord word text with
  | case1 text =>
      cases read
      rfl
  | case2 => cases read
  | case3 letter word c text same ih =>
      rw [List.cons_append, ← ih read, beq_iff_eq.mp same]
  | case4 => cases read

/-- Where a named value was read, the rest of its name stood. -/
theorem eq_append_of_readNamed {tail : String} {value made : α} {first : Char}
    {text rest : List Char} (yields : Yields (readNamed tail value first text) made rest) :
    text = tail.toList ++ rest := by
  obtain ⟨_, yields⟩ := yields
  unfold readNamed at yields
  split at yields
  · rename_i read
    cases yields
    exact eq_append_of_readWord read
  · cases yields

/-- A written truth value is read back. -/
theorem yields_readBool {layout : Layout} {level : Nat} (value : Bool)
    (begins : skipBlank text = (Value.bool value).written layout level ++ rest) :
    Yields (readBool text) value rest := by
  cases value with
  | true => exact yields_readFirst begins (yields_readNamed "rue" true 't' rest)
  | false => exact yields_readFirst begins (yields_readNamed "alse" false 'f' rest)

/-- A value that may be missing, as a value; null stands for a missing one. -/
def Value.ofOption (write : α → Value) : Option α → Value
  | none => .null
  | some value => write value

/-- A part that is there is written as one that may be null. -/
theorem Value.eq_ofOption_of_map {write : α → Value} {value? : Option α} {value : Value}
    (written : value?.map write = some value) : value = .ofOption write value? := by
  obtain ⟨_, rfl, rfl⟩ := Option.map_eq_some_iff.mp written
  rfl

/-- Null is read as nothing. -/
theorem yields_readOptional_null {layout : Layout} {level : Nat} (read : Reader α)
    (begins : skipBlank text = Value.null.written layout level ++ rest) :
    Yields (readOptional read text) none rest := by
  have found : skipBlank text = 'n' :: ("ull".toList ++ rest) := begins
  unfold readOptional
  split
  · rename_i other
    obtain ⟨_, rfl⟩ := List.cons.inj (found.symm.trans other)
    exact (yields_readNamed "ull" none 'n' rest).map_widen _
  · rename_i other
    exact absurd found (other _)

/-- What does not begin as null is read as it is. -/
theorem Yields.readOptional {read : Reader α} (yields : Yields (read text) value left)
    (other : (skipBlank text).head? ≠ some 'n') :
    Yields (readOptional read text) (some value) left := by
  unfold Json.readOptional
  split
  · rename_i found
    rw [found] at other
    exact absurd rfl other
  · exact yields.map_value some

/-- A written value that may be missing is read back, when it does not begin like null. -/
theorem yields_readOptional {layout : Layout} {level : Nat} {write : α → Value} {read : Reader α}
    {value? : Option α}
    (begins : skipBlank text = (Value.ofOption write value?).written layout level ++ rest)
    (other : ∀ value ∈ value?, ((write value).written layout level ++ rest).head? ≠ some 'n')
    (reads : ∀ value ∈ value?, skipBlank text = (write value).written layout level ++ rest →
      Yields (read text) value rest) :
    Yields (readOptional read text) value? rest := by
  cases value? with
  | none => exact yields_readOptional_null read begins
  | some value =>
      refine (reads value rfl begins).readOptional ?_
      rw [begins]
      exact other value rfl

end Locution.Json
