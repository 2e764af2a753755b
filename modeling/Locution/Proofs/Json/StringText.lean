import Locution.Proofs.Json.Reading

/-! # Written strings are read back

A character is written as it is, or as an escape of a single letter or by its number
(`WrittenAs`). Each is read as one item (`yields_readStringItem`), so a written string is
read back whatever stands in it (`yields_readString`).
-/

namespace Locution.Json

/-- The control characters are escaped by two hexadecimal digits that mean their code. -/
theorem numberedEscape_of_code : ∀ code < 0x20,
    (code / 16).digitChar ∈ "01".toList ∧ (code % 16).digitChar ∈ "0123456789abcdef".toList ∧
      numberedEscape (Char.ofNat code) =
        ['\\', 'u', '0', '0', (code / 16).digitChar, (code % 16).digitChar] ∧
      hexValue4? '0' '0' (code / 16).digitChar (code % 16).digitChar = some code := by
  decide +kernel

/-- How a character is written in a string. -/
inductive WrittenAs (c : Char) : List Char → Prop where
  | itself (printing : 0x20 ≤ c.toNat) (noQuote : c ≠ '"') (noEscape : c ≠ '\\') :
      WrittenAs c [c]
  | letter {letter : Char} (member : letter ∈ "\"\\bfnrt".toList)
      (meant : letterEscape? letter = some c) : WrittenAs c ['\\', letter]
  | number {high low : Char} (digits : high ∈ "01".toList ∧ low ∈ "0123456789abcdef".toList)
      (meant : hexValue4? '0' '0' high low = some c.toNat) (control : c.toNat < 0x20) :
      WrittenAs c ['\\', 'u', '0', '0', high, low]

/-- Every character is written in one of the three ways. -/
theorem writtenAs (c : Char) : WrittenAs c (writtenChar c) := by
  by_cases lettered : c ∈ ['"', '\\', '\x08', '\x0c', '\n', '\r', '\t']
  · simp only [List.mem_cons, List.not_mem_nil, or_false] at lettered
    rcases lettered with rfl | rfl | rfl | rfl | rfl | rfl | rfl <;>
      exact .letter (by decide) rfl
  · simp only [List.mem_cons, List.not_mem_nil, or_false, not_or] at lettered
    have written : writtenChar c = if c.toNat < 0x20 then numberedEscape c else [c] := by
      simp only [writtenChar, beq_iff_eq, lettered, ↓reduceIte]
    rw [written]
    split
    · rename_i control
      obtain ⟨high, low, escape, meant⟩ := numberedEscape_of_code c.toNat control
      rw [Char.ofNat_toNat] at escape
      rw [escape]
      exact .number ⟨high, low⟩ meant control
    · rename_i printing
      exact .itself (Nat.le_of_not_lt printing) lettered.1 lettered.2.1

/-- An escape by number is read as the control character. -/
theorem yields_readNumberedChar {c high low : Char}
    (meant : hexValue4? '0' '0' high low = some c.toNat) (control : c.toNat < 0x20)
    (rest : List Char) :
    Yields (readNumberedChar ('0' :: '0' :: high :: low :: rest)) c rest := by
  have noLow : ¬ (0xDC00 ≤ c.toNat ∧ c.toNat ≤ 0xDFFF) := by omega
  have noHigh : ¬ (0xD800 ≤ c.toNat ∧ c.toNat ≤ 0xDBFF) := by omega
  simp only [readNumberedChar, readHex, meant, noLow, noHigh, ↓reduceIte, Char.ofNat_toNat]
  exact ⟨_, rfl⟩

/-- A written character is read as one item. -/
theorem yields_readStringItem (c : Char) (rest : List Char) :
    Yields (readStringItem (writtenChar c ++ rest)) (some c) rest := by
  have as := writtenAs c
  generalize writtenChar c = written at as
  cases as with
  | itself printing noQuote noEscape =>
      have allowed : ¬ c.toNat < 0x20 := Nat.not_lt_of_le printing
      simp only [List.singleton_append, readStringItem, noEscape, allowed, false_implies,
        implies_true, ↓reduceIte]
      exact ⟨_, rfl⟩
  | @letter letter member meant =>
      have other : letter ≠ 'u' := by
        rintro rfl
        exact absurd member (by decide)
      rw [List.cons_append, List.singleton_append, readStringItem]
      · simp only [meant]
        exact ⟨_, rfl⟩
      · exact other
  | number digits meant control =>
      obtain ⟨shorter, read⟩ := yields_readNumberedChar meant control rest
      simp only [List.cons_append, List.nil_append, readStringItem, read]
      exact ⟨_, rfl⟩

/-- What stands before the closing quotation mark is read back. -/
theorem yields_readStringFrom {whole text rest : List Char} (characters done : List Char)
    (within : text.length ≤ whole.length)
    (spelled : text = characters.flatMap writtenChar ++ '"' :: rest) :
    Yields (readStringFrom whole done text within) (String.ofList (done.reverse ++ characters))
      rest := by
  induction characters generalizing done text with
  | nil =>
      subst spelled
      rw [readStringFrom]
      simp only [readStringItem, List.append_nil]
      exact ⟨_, rfl⟩
  | cons c characters ih =>
      have item := yields_readStringItem c (characters.flatMap writtenChar ++ '"' :: rest)
      rw [← List.append_assoc, ← List.flatMap_cons, ← spelled] at item
      obtain ⟨shorter, read⟩ := item
      have further := ih (c :: done) (Nat.le_of_lt (Nat.lt_of_lt_of_le shorter within)) rfl
      rw [List.reverse_cons, List.append_assoc, List.singleton_append] at further
      rw [readStringFrom]
      simp only [read]
      exact further

/-- A written string is read back after its quotation mark. -/
theorem yields_readString (text : String) (rest : List Char) :
    Yields (readString (text.toList.flatMap writtenChar ++ '"' :: rest)) text rest := by
  have read := yields_readStringFrom text.toList [] (length_le_self _)
    (Eq.refl (text.toList.flatMap writtenChar ++ '"' :: rest))
  rwa [List.reverse_nil, List.nil_append, String.ofList_toList] at read

/-- A written string is read back. -/
theorem yields_readText {layout : Layout} {level : Nat} {text rest : List Char} (value : String)
    (begins : skipBlank text = (Value.string value).written layout level ++ rest) :
    Yields (readText text) value rest := by
  have opens : skipBlank text = '"' :: (value.toList.flatMap writtenChar ++ '"' :: rest) := by
    rw [begins, Value.written, writtenString, List.append_assoc, List.append_assoc]
    rfl
  exact yields_readFirst opens ((yields_readString value rest).map_after '"')

/-- A text that may be null is read back. -/
theorem yields_readOptional_readText {layout : Layout} {level : Nat} {text rest : List Char}
    {value? : Option String}
    (begins : skipBlank text = (Value.ofOption .string value?).written layout level ++ rest) :
    Yields (readOptional readText text) value? rest :=
  yields_readOptional begins (fun _ _ same => absurd (Option.some.inj same) (by decide))
    fun claimed _ => yields_readText claimed

end Locution.Json
