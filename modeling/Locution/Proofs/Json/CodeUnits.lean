import Locution.Proofs.Json.StringText

/-! # Strings by their code units

A string in a JSON text stands for code units of sixteen bits (`StandsString`). A character is
written as it is, as an escape of a letter, or as an escape of the number of each of its code units.
A string is skipped when it stands for any code units (`yields_skipString_iff`), and it is read when
these are the code units of a text, which is then the text that is read (`yields_readString_iff`).
-/

namespace Locution.Json

/-- The code units of a character: its number, or a pair of surrogates. -/
def codeUnits (c : Char) : List Nat :=
  if c.toNat < 0x10000 then [c.toNat]
  else [0xD800 + (c.toNat - 0x10000) / 0x400, 0xDC00 + (c.toNat - 0x10000) % 0x400]

/-- The code units of a text. -/
def unitsOf (text : String) : List Nat :=
  text.toList.flatMap codeUnits

/-- Whether the end of a string stands at the beginning of a text: what is left of its code units,
and the closing quotation mark. -/
inductive StandsString : List Nat → List Char → List Char → Prop where
  | close {rest : List Char} : StandsString [] ('"' :: rest) rest
  | itself {c : Char} {units : List Nat} {text rest : List Char} (printing : 0x20 ≤ c.toNat)
      (noQuote : c ≠ '"') (noEscape : c ≠ '\\') (others : StandsString units text rest) :
      StandsString (codeUnits c ++ units) (c :: text) rest
  | letter {sign c : Char} {units : List Nat} {text rest : List Char}
      (meant : letterEscape? sign = some c) (others : StandsString units text rest) :
      StandsString (codeUnits c ++ units) ('\\' :: sign :: text) rest
  | number {a b c d : Char} {unit : Nat} {units : List Nat} {text rest : List Char}
      (meant : hexValue4? a b c d = some unit) (others : StandsString units text rest) :
      StandsString (unit :: units) ('\\' :: 'u' :: a :: b :: c :: d :: text) rest

section Units

variable {c other : Char}

/-- A character of the basic plane has one code unit, its number. -/
theorem codeUnits_of_lt (small : c.toNat < 0x10000) : codeUnits c = [c.toNat] :=
  if_pos small

/-- A character beyond the basic plane has a pair of surrogates for code units. -/
theorem codeUnits_of_le (great : 0x10000 ≤ c.toNat) :
    codeUnits c = [0xD800 + (c.toNat - 0x10000) / 0x400, 0xDC00 + (c.toNat - 0x10000) % 0x400] :=
  if_neg (Nat.not_lt_of_le great)

/-- The first code unit of a character is no second half of a pair. -/
theorem exists_codeUnits_eq (c : Char) :
    ∃ unit units, codeUnits c = unit :: units ∧ ¬ (0xDC00 ≤ unit ∧ unit ≤ 0xDFFF) := by
  have valid : c.toNat.isValidChar := c.valid
  by_cases small : c.toNat < 0x10000
  · exact ⟨_, [], codeUnits_of_lt small, by omega⟩
  · exact ⟨_, _, codeUnits_of_le (Nat.le_of_not_lt small), by omega⟩

/-- The code units of a character tell it from other characters. -/
theorem codeUnits_append_inj {units others : List Nat}
    (same : codeUnits c ++ units = codeUnits other ++ others) : c = other ∧ units = others := by
  have valid : c.toNat.isValidChar := c.valid
  have validOther : other.toNat.isValidChar := other.valid
  by_cases small : c.toNat < 0x10000 <;> by_cases smallOther : other.toNat < 0x10000
  · rw [codeUnits_of_lt small, codeUnits_of_lt smallOther] at same
    obtain ⟨number, rfl⟩ := List.cons.inj same
    exact ⟨Char.toNat_inj.mp number, rfl⟩
  · rw [codeUnits_of_lt small, codeUnits_of_le (Nat.le_of_not_lt smallOther)] at same
    have number := (List.cons.inj same).1
    omega
  · rw [codeUnits_of_le (Nat.le_of_not_lt small), codeUnits_of_lt smallOther] at same
    have number := (List.cons.inj same).1
    omega
  · rw [codeUnits_of_le (Nat.le_of_not_lt small),
      codeUnits_of_le (Nat.le_of_not_lt smallOther)] at same
    obtain ⟨high, same⟩ := List.cons.inj same
    obtain ⟨low, rfl⟩ := List.cons.inj same
    exact ⟨Char.toNat_inj.mp (by omega), rfl⟩

/-- The code units of a text tell it from other texts. -/
theorem flatMap_codeUnits_inj {first second : List Char}
    (same : first.flatMap codeUnits = second.flatMap codeUnits) : first = second := by
  induction first generalizing second with
  | nil =>
      cases second with
      | nil => rfl
      | cons c second =>
          obtain ⟨_, _, split, _⟩ := exists_codeUnits_eq c
          rw [List.flatMap_cons, split] at same
          cases same
  | cons c first ih =>
      cases second with
      | nil =>
          obtain ⟨_, _, split, _⟩ := exists_codeUnits_eq c
          rw [List.flatMap_cons, split] at same
          cases same
      | cons other second =>
          rw [List.flatMap_cons, List.flatMap_cons] at same
          obtain ⟨rfl, others⟩ := codeUnits_append_inj same
          rw [ih others]

/-- Different texts have different code units. -/
theorem unitsOf_inj {first second : String} : unitsOf first = unitsOf second ↔ first = second := by
  constructor
  · intro same
    exact String.toList_inj.mp (flatMap_codeUnits_inj same)
  · rintro rfl
    rfl

theorem lt_of_hexValue? {value : Nat} (meant : hexValue? c = some value) : value < 16 := by
  have least (a b : Char) (within : a ≤ b) : a.toNat ≤ b.toNat := within
  unfold hexValue? at meant
  split at meant
  · rename_i digit
    have most := least c '9' digit.2
    cases meant
    have value : '9'.toNat = 57 ∧ '0'.toNat = 48 := ⟨rfl, rfl⟩
    omega
  · split at meant
    · rename_i small
      have most := least c 'f' small.2
      cases meant
      have value : 'f'.toNat = 102 ∧ 'a'.toNat = 97 := ⟨rfl, rfl⟩
      omega
    · split at meant
      · rename_i great
        have most := least c 'F' great.2
        cases meant
        have value : 'F'.toNat = 70 ∧ 'A'.toNat = 65 := ⟨rfl, rfl⟩
        omega
      · cases meant

/-- Four hexadecimal digits have a value of sixteen bits. -/
theorem lt_of_hexValue4? {a b d : Char} {value : Nat} (meant : hexValue4? a b c d = some value) :
    value < 0x10000 := by
  simp only [hexValue4?, Option.bind_eq_bind, Option.bind_eq_some_iff, Option.pure_def,
    Option.some.injEq] at meant
  obtain ⟨first, firstMeant, second, secondMeant, third, thirdMeant, fourth, fourthMeant, rfl⟩ :=
    meant
  have := lt_of_hexValue? firstMeant
  have := lt_of_hexValue? secondMeant
  have := lt_of_hexValue? thirdMeant
  have := lt_of_hexValue? fourthMeant
  omega

theorem toNat_ofNat_of_isValidChar {number : Nat} (valid : number.isValidChar) :
    (Char.ofNat number).toNat = number := by
  rw [Char.ofNat, dif_pos valid]
  rfl

/-- A number that is no surrogate is the only code unit of its character. -/
theorem codeUnits_ofNat {unit : Nat} (small : unit < 0x10000)
    (single : unit < 0xD800 ∨ 0xDFFF < unit) : codeUnits (Char.ofNat unit) = [unit] := by
  have valid : unit.isValidChar := by
    unfold Nat.isValidChar
    omega
  have number := toNat_ofNat_of_isValidChar valid
  rw [codeUnits_of_lt (number.symm ▸ small), number]

/-- A pair of surrogates stands for a number beyond the basic plane. -/
theorem toNat_pairedChar {high low : Nat} (first : 0xD800 ≤ high ∧ high ≤ 0xDBFF)
    (second : 0xDC00 ≤ low ∧ low ≤ 0xDFFF) :
    (pairedChar high low).toNat = (high - 0xD800) * 0x400 + (low - 0xDC00) + 0x10000 := by
  refine toNat_ofNat_of_isValidChar ?_
  unfold Nat.isValidChar
  omega

/-- The code units of a pair are its halves. -/
theorem codeUnits_pairedChar {high low : Nat} (first : 0xD800 ≤ high ∧ high ≤ 0xDBFF)
    (second : 0xDC00 ≤ low ∧ low ≤ 0xDFFF) : codeUnits (pairedChar high low) = [high, low] := by
  have number := toNat_pairedChar first second
  have great : 0x10000 ≤ (pairedChar high low).toNat := by
    rw [number]
    exact Nat.le_add_left _ _
  have halves : 0xD800 + ((pairedChar high low).toNat - 0x10000) / 0x400 = high ∧
      0xDC00 + ((pairedChar high low).toNat - 0x10000) % 0x400 = low := by
    omega
  rw [codeUnits_of_le great, halves.1, halves.2]

end Units

section Items

variable {text rest final : List Char} {units : List Nat} {c : Char}

/-- Four hexadecimal digits are read, and nothing else. -/
theorem yields_readHex_iff {value : Nat} :
    Yields (readHex text) value rest ↔
      ∃ a b c d, text = a :: b :: c :: d :: rest ∧ hexValue4? a b c d = some value := by
  constructor
  · rintro ⟨shorter, read⟩
    unfold readHex at read
    split at read
    · rename_i a b c d left
      split at read
      · rename_i meant
        cases read
        exact ⟨a, b, c, d, rfl, meant⟩
      · cases read
    · cases read
  · rintro ⟨a, b, c, d, rfl, meant⟩
    simp only [readHex, meant]
    exact ⟨_, rfl⟩

/-- The second half of a pair is an escape with the number of a low surrogate. -/
theorem exists_of_readLowHalf {high : Nat} (read : Yields (readLowHalf high text) c rest) :
    ∃ a b c' d low, text = '\\' :: 'u' :: a :: b :: c' :: d :: rest ∧
      hexValue4? a b c' d = some low ∧ (0xDC00 ≤ low ∧ low ≤ 0xDFFF) ∧ c = pairedChar high low := by
  obtain ⟨shorter, read⟩ := read
  unfold readLowHalf at read
  split at read
  · split at read
    · rename_i low numbered
      obtain ⟨a, b, c', d, split, meant⟩ := yields_readHex_iff.mp ⟨low.shorter, numbered⟩
      rw [split]
      split at read
      · rename_i half
        obtain ⟨rfl, rfl⟩ := Parsed.mk.inj (Except.ok.inj read)
        exact ⟨a, b, c', d, low.value, rfl, meant, half, rfl⟩
      · cases read
    · cases read
  all_goals cases read

/-- An escape by number is one code unit, or two that make a pair. -/
theorem standsString_of_readNumberedChar (read : Yields (readNumberedChar text) c rest)
    (others : StandsString units rest final) :
    StandsString (codeUnits c ++ units) ('\\' :: 'u' :: text) final := by
  obtain ⟨shorter, read⟩ := read
  simp only [readNumberedChar] at read
  split at read
  · cases read
  · rename_i code numbered
    obtain ⟨a, b, c', d, split, meant⟩ := yields_readHex_iff.mp ⟨code.shorter, numbered⟩
    rw [split]
    have small := lt_of_hexValue4? meant
    split at read
    · cases read
    · rename_i notLow
      split at read
      · rename_i high
        split at read
        · rename_i whole paired
          obtain ⟨_, _, _, _, low, second, lowMeant, half, same⟩ :=
            exists_of_readLowHalf ⟨_, paired⟩
          obtain ⟨rfl, rfl⟩ := Parsed.mk.inj (Except.ok.inj read)
          have halves := codeUnits_pairedChar high half
          rw [← same] at halves
          change StandsString (codeUnits whole.value ++ units) _ final
          rw [halves, second]
          exact .number meant (.number lowMeant others)
        · cases read
      · rename_i notHigh
        cases read
        rw [codeUnits_ofNat small (by omega)]
        exact .number meant others

/-- What is read as a character stands for its code units. -/
theorem standsString_of_readStringItem (read : Yields (readStringItem text) (some c) rest)
    (others : StandsString units rest final) :
    StandsString (codeUnits c ++ units) text final := by
  obtain ⟨shorter, read⟩ := read
  unfold readStringItem at read
  split at read
  · cases read
  · cases read
  · cases read
  · split at read
    · rename_i numbered took
      cases read
      exact standsString_of_readNumberedChar ⟨_, took⟩ others
    · cases read
  · split at read
    · rename_i meant
      cases read
      exact .letter meant others
    · cases read
  · rename_i d left noQuote noMore _ noSign
    split at read
    · cases read
    · rename_i printing
      cases read
      refine .itself (Nat.le_of_not_lt printing) noQuote ?_ others
      intro escape
      cases rest with
      | nil => exact noMore escape rfl
      | cons sign rest => exact noSign sign rest escape rfl

/-- Reading ends at a quotation mark. -/
theorem eq_cons_of_readStringItem (read : Yields (readStringItem text) none rest) :
    text = '"' :: rest := by
  obtain ⟨shorter, read⟩ := read
  unfold readStringItem at read
  split at read
  · cases read
  · cases read
    rfl
  · cases read
  · split at read <;> cases read
  · split at read <;> cases read
  · split at read <;> cases read

/-- A string without code units left stands at its closing quotation mark. -/
theorem StandsString.eq_cons_of_nil (stands : StandsString [] text rest) : text = '"' :: rest := by
  generalize none : ([] : List Nat) = whole at stands
  cases stands with
  | close => rfl
  | @itself c =>
      obtain ⟨_, _, split, _⟩ := exists_codeUnits_eq c
      rw [split] at none
      cases none
  | @letter _ c =>
      obtain ⟨_, _, split, _⟩ := exists_codeUnits_eq c
      rw [split] at none
      cases none
  | number => cases none

/-- The second half of a pair can only be written by its number. -/
theorem StandsString.exists_low {low : Nat} (stands : StandsString (low :: units) text rest)
    (half : 0xDC00 ≤ low ∧ low ≤ 0xDFFF) :
    ∃ a b c d more, text = '\\' :: 'u' :: a :: b :: c :: d :: more ∧
      hexValue4? a b c d = some low ∧ StandsString units more rest := by
  generalize all : low :: units = whole at stands
  cases stands with
  | close => cases all
  | @itself c others more _ printing noQuote noEscape stands =>
      obtain ⟨first, following, split, noLow⟩ := exists_codeUnits_eq c
      rw [split] at all
      obtain ⟨rfl, _⟩ := List.cons.inj all
      exact absurd half noLow
  | @letter sign c others more _ meant stands =>
      obtain ⟨first, following, split, noLow⟩ := exists_codeUnits_eq c
      rw [split] at all
      obtain ⟨rfl, _⟩ := List.cons.inj all
      exact absurd half noLow
  | @number a b c d unit others more _ meant stands =>
      obtain ⟨rfl, rfl⟩ := List.cons.inj all
      exact ⟨a, b, c, d, more, rfl, meant, stands⟩

/-- The code units of a character are read as the character, however they are written. -/
theorem exists_readStringItem (stands : StandsString (codeUnits c ++ units) text rest) :
    ∃ more, Yields (readStringItem text) (some c) more ∧ StandsString units more rest := by
  have valid : c.toNat.isValidChar := c.valid
  obtain ⟨first, following, split, noLow⟩ := exists_codeUnits_eq c
  generalize all : codeUnits c ++ units = whole at stands
  cases stands with
  | close =>
      rw [split] at all
      cases all
  | @itself d others more _ printing noQuote noEscape stands =>
      obtain ⟨rfl, rfl⟩ := codeUnits_append_inj all
      have allowed : ¬ c.toNat < 0x20 := Nat.not_lt_of_le printing
      refine ⟨more, ?_, stands⟩
      simp only [readStringItem, noEscape, allowed, false_implies, implies_true, ↓reduceIte]
      exact ⟨_, rfl⟩
  | @letter sign d others more _ meant stands =>
      obtain ⟨rfl, rfl⟩ := codeUnits_append_inj all
      have other : sign ≠ 'u' := by
        rintro rfl
        cases meant
      refine ⟨more, ?_, stands⟩
      rw [readStringItem]
      · simp only [meant]
        exact ⟨_, rfl⟩
      · exact other
  | @number _ _ _ _ unit others more _ meant stands =>
      by_cases small : c.toNat < 0x10000
      · rw [codeUnits_of_lt small] at all
        obtain ⟨rfl, rfl⟩ := List.cons.inj all
        have notLow : ¬ (0xDC00 ≤ c.toNat ∧ c.toNat ≤ 0xDFFF) := by omega
        have notHigh : ¬ (0xD800 ≤ c.toNat ∧ c.toNat ≤ 0xDBFF) := by omega
        refine ⟨more, ?_, stands⟩
        simp only [readStringItem, readNumberedChar, readHex, meant, notLow, notHigh, ↓reduceIte,
          Char.ofNat_toNat]
        exact ⟨_, rfl⟩
      · rw [codeUnits_of_le (Nat.le_of_not_lt small)] at all
        obtain ⟨high, rfl⟩ := List.cons.inj all
        have isHigh : 0xD800 ≤ unit ∧ unit ≤ 0xDBFF := by omega
        have notLow : ¬ (0xDC00 ≤ unit ∧ unit ≤ 0xDFFF) := by omega
        have isLow : 0xDC00 ≤ 0xDC00 + (c.toNat - 0x10000) % 0x400 ∧
            0xDC00 + (c.toNat - 0x10000) % 0x400 ≤ 0xDFFF := by
          omega
        have pair : pairedChar unit (0xDC00 + (c.toNat - 0x10000) % 0x400) = c := by
          apply Char.toNat_inj.mp
          rw [toNat_pairedChar isHigh isLow]
          omega
        obtain ⟨_, _, _, _, more, rfl, lowMeant, stands⟩ := stands.exists_low isLow
        refine ⟨more, ?_, stands⟩
        simp only [readStringItem, readNumberedChar, readHex, meant, notLow, isHigh, and_self,
          ↓reduceIte, readLowHalf, lowMeant, isLow, pair]
        exact ⟨_, rfl⟩

end Items

section Strings

variable {whole text rest : List Char}

/-- A text that is read stands there by its code units. -/
theorem standsString_of_readStringFrom {done : List Char} {within : text.length ≤ whole.length}
    {value : String} (read : Yields (readStringFrom whole done text within) value rest) :
    ∃ characters, value = String.ofList (done.reverse ++ characters) ∧
      StandsString (characters.flatMap codeUnits) text rest := by
  -- The induction is on what is left of the text; each item of the string makes it shorter.
  induction size : text.length using Nat.strongRecOn generalizing text done with
  | ind count ih =>
      obtain ⟨shorter, read⟩ := read
      rw [readStringFrom] at read
      split at read
      · cases read
      · rename_i ended
        obtain ⟨rfl, rfl⟩ := Parsed.mk.inj (Except.ok.inj read)
        refine ⟨[], by rw [List.append_nil], ?_⟩
        rw [eq_cons_of_readStringItem ⟨_, ended⟩]
        exact .close
      · rename_i c more less item
        obtain ⟨characters, rfl, stands⟩ := ih _ (size ▸ less) ⟨_, read⟩ rfl
        refine ⟨c :: characters, ?_, standsString_of_readStringItem ⟨_, item⟩ stands⟩
        rw [List.reverse_cons, List.append_assoc, List.singleton_append]

/-- A text whose code units stand there is read. -/
theorem yields_readStringFrom_of_standsString (characters done : List Char)
    (within : text.length ≤ whole.length)
    (stands : StandsString (characters.flatMap codeUnits) text rest) :
    Yields (readStringFrom whole done text within) (String.ofList (done.reverse ++ characters))
      rest := by
  induction characters generalizing done text with
  | nil =>
      obtain rfl : text = '"' :: rest := stands.eq_cons_of_nil
      rw [readStringFrom]
      simp only [readStringItem, List.append_nil]
      exact ⟨_, rfl⟩
  | cons c characters ih =>
      obtain ⟨more, ⟨shorter, item⟩, stands⟩ := exists_readStringItem stands
      have further := ih (c :: done) (Nat.le_of_lt (Nat.lt_of_lt_of_le shorter within)) stands
      rw [List.reverse_cons, List.append_assoc, List.singleton_append] at further
      rw [readStringFrom]
      simp only [item]
      exact further

/-- **A string is read as the text of its code units**, and not at all if they are those of none. -/
theorem yields_readString_iff {value : String} :
    Yields (readString text) value rest ↔ StandsString (unitsOf value) text rest := by
  constructor
  · intro read
    obtain ⟨characters, rfl, stands⟩ := standsString_of_readStringFrom read
    rwa [unitsOf, String.toList_ofList]
  · intro stands
    have read := yields_readStringFrom_of_standsString value.toList [] (length_le_self _) stands
    rwa [List.reverse_nil, List.nil_append, String.ofList_toList] at read

/-- Skipping a string goes on behind each item. -/
theorem yields_skipStringFrom_of_item {more : List Char} {within : text.length ≤ whole.length}
    (item : Yields (skipStringItem text) false more)
    (others : ∀ within, Yields (skipStringFrom whole more within) () rest) :
    Yields (skipStringFrom whole text within) () rest := by
  obtain ⟨_, item⟩ := item
  rw [skipStringFrom]
  simp only [item]
  exact others _

/-- A string is skipped to its end. -/
theorem StandsString.yields_skipStringFrom {units : List Nat}
    (stands : StandsString units text rest) (within : text.length ≤ whole.length) :
    Yields (skipStringFrom whole text within) () rest := by
  induction stands with
  | close =>
      rw [skipStringFrom]
      exact ⟨_, rfl⟩
  | itself printing noQuote noEscape _ ih =>
      refine yields_skipStringFrom_of_item ?_ ih
      have allowed : ¬ _ < 0x20 := Nat.not_lt_of_le printing
      simp only [skipStringItem, noEscape, allowed, false_implies, implies_true, ↓reduceIte]
      exact ⟨_, rfl⟩
  | @letter sign _ _ _ _ meant _ ih =>
      refine yields_skipStringFrom_of_item ?_ ih
      have other : sign ≠ 'u' := by
        rintro rfl
        cases meant
      rw [skipStringItem]
      · simp only [meant]
        exact ⟨_, rfl⟩
      · exact other
  | number meant _ ih =>
      refine yields_skipStringFrom_of_item ?_ ih
      simp only [skipStringItem, readHex, meant]
      exact ⟨_, rfl⟩

/-- An item that is skipped stands for code units in front of those behind it. -/
theorem exists_standsString_of_skipStringItem {units : List Nat} {more : List Char}
    (item : Yields (skipStringItem text) false more) (others : StandsString units more rest) :
    ∃ units, StandsString units text rest := by
  obtain ⟨shorter, item⟩ := item
  unfold skipStringItem at item
  split at item
  · cases item
  · cases item
  · cases item
  · split at item
    · rename_i code numbered
      obtain ⟨a, b, c, d, split, meant⟩ := yields_readHex_iff.mp ⟨code.shorter, numbered⟩
      cases item
      rw [split]
      exact ⟨_, .number meant others⟩
    · cases item
  · split at item
    · rename_i known
      obtain ⟨c, meant⟩ := Option.isSome_iff_exists.mp known
      cases item
      exact ⟨_, .letter meant others⟩
    · cases item
  · rename_i c left noQuote noMore _ noSign
    split at item
    · cases item
    · rename_i printing
      cases item
      refine ⟨_, .itself (Nat.le_of_not_lt printing) noQuote ?_ others⟩
      intro escape
      cases more with
      | nil => exact noMore escape rfl
      | cons sign more => exact noSign sign more escape rfl

/-- Skipping ends at a quotation mark. -/
theorem eq_cons_of_skipStringItem (item : Yields (skipStringItem text) true rest) :
    text = '"' :: rest := by
  obtain ⟨shorter, item⟩ := item
  unfold skipStringItem at item
  split at item
  · cases item
  · cases item
    rfl
  · cases item
  · split at item <;> cases item
  · split at item <;> cases item
  · split at item <;> cases item

/-- A string that is skipped stands for some code units. -/
theorem exists_standsString_of_skipStringFrom {within : text.length ≤ whole.length}
    (skipped : Yields (skipStringFrom whole text within) () rest) :
    ∃ units, StandsString units text rest := by
  induction size : text.length using Nat.strongRecOn generalizing text with
  | ind count ih =>
      obtain ⟨shorter, skipped⟩ := skipped
      rw [skipStringFrom] at skipped
      split at skipped
      · cases skipped
      · rename_i ended
        cases skipped
        rw [eq_cons_of_skipStringItem ⟨_, ended⟩]
        exact ⟨[], .close⟩
      · rename_i more less item
        obtain ⟨units, stands⟩ := ih _ (size ▸ less) ⟨_, skipped⟩ rfl
        exact exists_standsString_of_skipStringItem ⟨_, item⟩ stands

/-- **A string is skipped whatever its code units are.** -/
theorem yields_skipString_iff :
    Yields (skipString text) () rest ↔ ∃ units, StandsString units text rest := by
  constructor
  · exact exists_standsString_of_skipStringFrom
  · rintro ⟨units, stands⟩
    exact stands.yields_skipStringFrom (length_le_self _)

/-- A string stands for one row of code units only. -/
theorem StandsString.unique {units others : List Nat} {left : List Char}
    (stands : StandsString units text rest) (also : StandsString others text left) :
    units = others ∧ rest = left := by
  induction stands generalizing others with
  | close =>
      cases also with
      | close => exact ⟨rfl, rfl⟩
      | itself _ noQuote => exact absurd rfl noQuote
  | itself _ noQuote noEscape _ ih =>
      cases also with
      | close => exact absurd rfl noQuote
      | itself _ _ _ more =>
          obtain ⟨rfl, rfl⟩ := ih more
          exact ⟨rfl, rfl⟩
      | letter => exact absurd rfl noEscape
      | number => exact absurd rfl noEscape
  | letter meant _ ih =>
      cases also with
      | itself _ _ noEscape => exact absurd rfl noEscape
      | letter again more =>
          obtain ⟨rfl, rfl⟩ := ih more
          obtain rfl := Option.some.inj (meant.symm.trans again)
          exact ⟨rfl, rfl⟩
      | number => cases meant
  | number meant _ ih =>
      cases also with
      | itself _ _ noEscape => exact absurd rfl noEscape
      | letter again => cases again
      | number again more =>
          obtain ⟨rfl, rfl⟩ := ih more
          obtain rfl := Option.some.inj (meant.symm.trans again)
          exact ⟨rfl, rfl⟩

end Strings

end Locution.Json
