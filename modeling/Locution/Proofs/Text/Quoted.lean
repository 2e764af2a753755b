import Locution.Text.Cut
import Locution.Text.Quoted

/-! # Quoted text is read back

A character is written in quoted text as it is, or as a letter behind a backslash, or by its number
(`EscapedAs`). Each is read back whatever follows it (`readEscaped?_escapedChar`), so no two texts
are quoted alike (`quoted_injective`). A character at which a line could end is never written as it
is, so quoted text is a part of one line (`isLineBreak_of_mem_quoted`).
-/

namespace Locution.Text

/-- The value of a digit in base sixteen. -/
def hexDigitValue (digit : Char) : Nat :=
  "0123456789abcdef".toList.idxOf digit

/-- The number that digits in base sixteen stand for. -/
def hexNumber (digits : List Char) : Nat :=
  digits.foldl (fun number digit => 16 * number + hexDigitValue digit) 0

/-- What a letter behind a backslash stands for. -/
def letterMeaning? (letter : Char) : Option Char :=
  [('"', '"'), ('\\', '\\'), ('n', '\n'), ('r', '\r'), ('t', '\t'), ('0', '\x00')].lookup letter

/-- The character at the beginning of quoted text, and what is left. -/
def readEscaped? : List Char → Option (Char × List Char)
  | [] => none
  | '\\' :: 'u' :: '\x7b' :: text =>
    some (Char.ofNat (hexNumber (text.takeWhile (· != '\x7d'))),
      (text.dropWhile (· != '\x7d')).tail)
  | '\\' :: letter :: text => (letterMeaning? letter).map fun c => (c, text)
  | c :: text => some (c, text)

/-- How a character is written in quoted text. -/
inductive EscapedAs (c : Char) : List Char → Prop where
  | itself (noQuote : c ≠ '"') (noEscape : c ≠ '\\') (shown : hiddenRanges.contains c = false) :
      EscapedAs c [c]
  | letter {letter : Char} (member : letter ∈ "\"\\nrt0".toList)
      (meant : letterMeaning? letter = some c) : EscapedAs c ['\\', letter]
  | number : EscapedAs c ('\\' :: 'u' :: '\x7b' :: (hexDigits c.toNat ++ ['\x7d']))

/-- Every character is written in one of the three ways. -/
theorem escapedAs (c : Char) : EscapedAs c (escapedChar c) := by
  by_cases lettered : c ∈ ['"', '\\', '\n', '\r', '\t', '\x00']
  · simp only [List.mem_cons, List.not_mem_nil, or_false] at lettered
    rcases lettered with rfl | rfl | rfl | rfl | rfl | rfl <;>
      exact .letter (by decide) rfl
  · simp only [List.mem_cons, List.not_mem_nil, or_false, not_or] at lettered
    obtain ⟨noQuote, noEscape, noFeed, noReturn, noTab, noNull⟩ := lettered
    have positive : c.toNat ≠ 0 := by
      intro zero
      exact noNull (Char.toNat_inj.mp zero)
    have written : escapedChar c =
        if hiddenRanges.contains c then
          ['\\', 'u', '\x7b'] ++ hexDigits c.toNat ++ ['\x7d'] else [c] := by
      simp [escapedChar, noQuote, noEscape, noFeed, noReturn, noTab, positive]
    rw [written]
    cases hidden : hiddenRanges.contains c with
    | true => exact .number
    | false => exact .itself noQuote noEscape hidden

/-- A digit in base sixteen has the value that it is written for. -/
theorem hexDigitValue_digitChar : ∀ value < 16, hexDigitValue value.digitChar = value := by
  decide

/-- The last digit of a number is its remainder by sixteen. -/
theorem hexDigits_eq (n : Nat) :
    hexDigits n = if n < 16 then [n.digitChar] else hexDigits (n / 16) ++ [(n % 16).digitChar] :=
  Nat.toDigits_eq_if (by decide)

/-- One digit more is worth sixteen times what was before, and its own value. -/
theorem hexNumber_append (digits : List Char) (digit : Char) :
    hexNumber (digits ++ [digit]) = 16 * hexNumber digits + hexDigitValue digit := by
  rw [hexNumber, List.foldl_append]
  rfl

/-- The digits of a number are worth the number. -/
theorem hexNumber_hexDigits (n : Nat) : hexNumber (hexDigits n) = n := by
  induction n using Nat.strongRecOn with
  | ind n ih =>
      rw [hexDigits_eq]
      split
      · rename_i single
        rw [← List.nil_append [n.digitChar], hexNumber_append, hexDigitValue_digitChar n single]
        exact Nat.zero_add n
      · rename_i several
        have last : n % 16 < 16 := Nat.mod_lt n (by decide)
        rw [hexNumber_append, ih (n / 16) (by omega), hexDigitValue_digitChar _ last]
        omega

theorem exists_of_mem_hexDigits {n : Nat} {digit : Char} (member : digit ∈ hexDigits n) :
    ∃ value < 16, digit = value.digitChar := by
  induction n using Nat.strongRecOn with
  | ind n ih =>
      rw [hexDigits_eq] at member
      split at member
      · rename_i single
        exact ⟨n, single, List.mem_singleton.mp member⟩
      · rename_i several
        rcases List.mem_append.mp member with front | last
        · exact ih (n / 16) (by omega) front
        · exact ⟨n % 16, Nat.mod_lt n (by decide), List.mem_singleton.mp last⟩

/-- A written character is read back, whatever follows. -/
theorem readEscaped?_escapedChar (c : Char) (rest : List Char) :
    readEscaped? (escapedChar c ++ rest) = some (c, rest) := by
  have as := escapedAs c
  generalize escapedChar c = written at as
  cases as with
  | itself noQuote noEscape shown =>
      rw [List.singleton_append, readEscaped?]
      · simp [noEscape]
      · simp [noEscape]
  | @letter letter _ meant =>
      have other : letter ≠ 'u' := by
        rintro rfl
        cases meant
      rw [List.cons_append, List.singleton_append, readEscaped?]
      · rw [meant, Option.map_some]
      · simp [other]
  | number =>
      have digits : ∀ digit ∈ hexDigits c.toNat, (digit != '\x7d') = true := by
        intro digit member
        obtain ⟨value, small, rfl⟩ := exists_of_mem_hexDigits member
        have each : ∀ value < 16, (value.digitChar != '\x7d') = true := by decide
        exact each value small
      simp only [List.cons_append, List.append_assoc, readEscaped?]
      rw [List.takeWhile_append_of_pos digits, List.dropWhile_append_of_pos digits,
        List.takeWhile_cons_of_neg (by decide), List.dropWhile_cons_of_neg (by decide),
        List.append_nil, hexNumber_hexDigits, Char.ofNat_toNat, List.tail_cons, List.nil_append]

/-- The first character of quoted text is read back. -/
theorem readEscaped?_escaped_cons (c : Char) (text : List Char) :
    readEscaped? (escaped (c :: text)) = some (c, escaped text) := by
  rw [escaped, List.flatMap_cons]
  exact readEscaped?_escapedChar c _

theorem escaped_injective : Function.Injective escaped := by
  intro text other same
  induction text generalizing other with
  | nil =>
      cases other with
      | nil => rfl
      | cons d other =>
          have read := readEscaped?_escaped_cons d other
          rw [← same] at read
          cases read
  | cons c text ih =>
      have read := readEscaped?_escaped_cons c text
      cases other with
      | nil =>
          rw [same] at read
          cases read
      | cons d other =>
          rw [same, readEscaped?_escaped_cons, Option.some.injEq, Prod.mk.injEq] at read
          obtain ⟨rfl, later⟩ := read
          rw [ih later.symm]

/-- No two texts are quoted alike. -/
theorem quoted_injective : Function.Injective quoted := by
  intro text other same
  have inner : ['"'] ++ escaped text.toList ++ ['"'] = ['"'] ++ escaped other.toList ++ ['"'] :=
    String.ofList_injective same
  apply String.toList_injective
  apply escaped_injective
  exact List.append_cancel_left (List.append_cancel_right inner)

section Lines

/-- Whether a line ends at a character: line feed and carriage return, the two tabulators between
them, the three separators of information, next line, and the separators of lines and paragraphs. -/
def isLineBreak (c : Char) : Bool :=
  CodeRanges.contains [(0xA, 0xD), (0x1C, 0x1E), (0x85, 0x85), (0x2028, 0x2029)] c

/-- Whether a text stands on one line. -/
def isOneLine (text : String) : Bool :=
  text.toList.all (!isLineBreak ·)

/-- The lines of a text. -/
def lines (text : String) : List String :=
  (cut isLineBreak text.toList).map String.ofList

/-- The characters that end a line do not show. -/
theorem hidden_of_isLineBreak {c : Char} (ends : isLineBreak c = true) :
    hiddenRanges.contains c = true := by
  have code : c.toNat ∈ [0xA, 0xB, 0xC, 0xD, 0x1C, 0x1D, 0x1E, 0x85, 0x2028, 0x2029] := by
    simp only [isLineBreak, CodeRanges.contains, CodeRanges.containsCode] at ends
    simp only [List.mem_cons, List.not_mem_nil, or_false]
    grind
  have each : ∀ code ∈ [0xA, 0xB, 0xC, 0xD, 0x1C, 0x1D, 0x1E, 0x85, 0x2028, 0x2029],
      hiddenRanges.containsCode code = true := by decide +kernel
  exact each c.toNat code

/-- The form of a character inside quoted text ends no line. -/
theorem isLineBreak_of_mem_escapedChar {c d : Char} (member : d ∈ escapedChar c) :
    isLineBreak d = false := by
  have as := escapedAs c
  generalize escapedChar c = written at as member
  cases as with
  | itself noQuote noEscape shown =>
      obtain rfl := List.mem_singleton.mp member
      rw [Bool.eq_false_iff]
      intro ends
      rw [hidden_of_isLineBreak ends] at shown
      cases shown
  | @letter letter among meant =>
      have each : "\"\\nrt0".toList.all (!isLineBreak ·) = true := by decide
      rcases List.mem_cons.mp member with rfl | later
      · decide
      · obtain rfl := List.mem_singleton.mp later
        simpa using List.all_eq_true.mp each d among
  | number =>
      simp only [List.mem_cons, List.mem_append, List.not_mem_nil, or_false] at member
      rcases member with rfl | rfl | rfl | digit | rfl
      · decide
      · decide
      · decide
      · obtain ⟨value, small, rfl⟩ := exists_of_mem_hexDigits digit
        have each : ∀ value < 16, isLineBreak value.digitChar = false := by decide
        exact each value small
      · decide

/-- A text stands on one line when its parts do. -/
theorem isOneLine_append (text more : String) :
    isOneLine (text ++ more) = (isOneLine text && isOneLine more) := by
  rw [isOneLine, String.toList_append, List.all_append, ← isOneLine, ← isOneLine]

/-- No line ends inside quoted text. -/
theorem isOneLine_quoted (text : String) : isOneLine (quoted text) = true := by
  have inside : (escaped text.toList).all (!isLineBreak ·) = true := by
    apply List.all_eq_true.mpr
    intro d member
    obtain ⟨c, _, written⟩ := List.mem_flatMap.mp member
    rw [isLineBreak_of_mem_escapedChar written, Bool.not_false]
  have mark : ['"'].all (!isLineBreak ·) = true := by decide
  rw [isOneLine, quoted, String.toList_ofList, List.all_append, List.all_append, mark, inside,
    Bool.and_self, Bool.and_self]

/-- No character of a text on one line ends a line. -/
theorem isLineBreak_of_isOneLine {line : String} (single : isOneLine line = true) :
    ∀ c ∈ line.toList, isLineBreak c = false := by
  intro c member
  simpa using List.all_eq_true.mp single c member

/-- A text on one line is its only line. -/
theorem lines_of_isOneLine {line : String} (single : isOneLine line = true) :
    lines line = [line] := by
  have unbroken := isLineBreak_of_isOneLine single
  rw [lines, cut_of_forall_not unbroken, List.map_singleton, String.ofList_toList]

/-- A text on one line and a line feed make the first line. -/
theorem lines_append_feed {line : String} (single : isOneLine line = true) (rest : String) :
    lines (line ++ "\n" ++ rest) = line :: lines rest := by
  have unbroken := isLineBreak_of_isOneLine single
  have feed : isLineBreak '\n' = true := by decide
  have split : (line ++ "\n" ++ rest).toList = line.toList ++ '\n' :: rest.toList := by
    simp [String.toList_append]
  rw [lines, split, cut_append_sign unbroken feed, List.map_cons, String.ofList_toList, ← lines]

end Lines

end Locution.Text
