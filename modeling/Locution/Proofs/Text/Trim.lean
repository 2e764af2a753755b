import Locution.Text.Blank

/-! # White space around a text

White space before or behind a text does not change what is left when it is trimmed
(`trimStart_append_of_blank`, `trim_append_of_blank`). What stands before a character that is no
white space is trimmed by itself (`trimStart_append_cons`), and so is what stands behind it.
-/

namespace Locution.Text

variable {c : Char} {text blanks : List Char}

/-- White space in front ends at the first other character. -/
theorem trimStart_append_cons (text rest : List Char) (solid : isSpace c = false) :
    trimStart (text ++ c :: rest) = trimStart text ++ c :: rest := by
  rw [trimStart, List.dropWhile_append]
  split
  · rename_i nothing
    rw [List.dropWhile_cons_of_neg (Bool.eq_false_iff.mp solid), trimStart,
      List.isEmpty_iff.mp nothing, List.nil_append]
  · rfl

/-- White space at the end begins behind the last other character. -/
theorem trimEnd_append_cons (text rest : List Char) (solid : isSpace c = false) :
    trimEnd (text ++ c :: rest) = text ++ c :: trimEnd rest := by
  rw [trimEnd, List.reverse_append, List.reverse_cons, List.append_assoc, List.singleton_append,
    trimStart_append_cons _ _ solid, List.reverse_append, List.reverse_cons, List.reverse_reverse,
    List.append_assoc, List.singleton_append, ← trimEnd]

theorem mem_of_mem_trimStart (member : c ∈ trimStart text) : c ∈ text :=
  (List.dropWhile_sublist isSpace).mem member

theorem mem_of_mem_trimEnd (member : c ∈ trimEnd text) : c ∈ text :=
  List.mem_reverse.mp (mem_of_mem_trimStart (List.mem_reverse.mp member))

theorem mem_of_mem_trim (member : c ∈ trim text) : c ∈ text :=
  mem_of_mem_trimStart (mem_of_mem_trimEnd member)

/-- What is left without the white space at the end is the beginning of the text. -/
theorem prefix_trimEnd (text : List Char) : trimEnd text <+: text := by
  rw [← List.reverse_suffix, trimEnd, List.reverse_reverse]
  exact List.dropWhile_suffix isSpace

/-- A text begins with white space and goes on with what is left of it. -/
theorem exists_append_trimStart (text : List Char) :
    ∃ blanks, (∀ c ∈ blanks, isSpace c = true) ∧ text = blanks ++ trimStart text := by
  refine ⟨text.takeWhile isSpace, ?_, List.takeWhile_append_dropWhile.symm⟩
  intro c member
  exact List.all_eq_true.mp List.all_takeWhile c member

/-- A text is what is left of it, and white space behind. -/
theorem exists_trimEnd_append (text : List Char) :
    ∃ blanks, (∀ c ∈ blanks, isSpace c = true) ∧ text = trimEnd text ++ blanks := by
  obtain ⟨blanks, blank, split⟩ := exists_append_trimStart text.reverse
  refine ⟨blanks.reverse, ?_, ?_⟩
  · intro c member
    exact blank c (List.mem_reverse.mp member)
  · rw [trimEnd, ← List.reverse_append, ← split, List.reverse_reverse]

/-- White space is trimmed together with what is trimmed behind it. -/
theorem trimStart_append_of_blank (blank : ∀ c ∈ blanks, isSpace c = true) (text : List Char) :
    trimStart (blanks ++ text) = trimStart text :=
  List.dropWhile_append_of_pos blank

/-- White space is trimmed together with what is trimmed before it. -/
theorem trimEnd_append_of_blank (blank : ∀ c ∈ blanks, isSpace c = true) (text : List Char) :
    trimEnd (text ++ blanks) = trimEnd text := by
  have reversed : ∀ c ∈ blanks.reverse, isSpace c = true := by
    intro c member
    exact blank c (List.mem_reverse.mp member)
  rw [trimEnd, List.reverse_append, trimStart_append_of_blank reversed, ← trimEnd]

/-- White space behind a text is trimmed, also where the text holds nothing else. -/
theorem trim_append_of_blank (blank : ∀ c ∈ blanks, isSpace c = true) (text : List Char) :
    trim (text ++ blanks) = trim text := by
  by_cases hollow : trimStart text = []
  · have all : ∀ c ∈ text, isSpace c = true := (trimStart_eq_nil_iff text).mp hollow
    have nothing : trimStart blanks = [] := (trimStart_eq_nil_iff blanks).mpr blank
    rw [trim, trim, trimStart_append_of_blank all, hollow, nothing]
  · have kept : trimStart (text ++ blanks) = trimStart text ++ blanks := by
      rw [trimStart, List.dropWhile_append, if_neg]
      · rfl
      · intro empty
        exact hollow (List.isEmpty_iff.mp empty)
    rw [trim, kept, trimEnd_append_of_blank blank, ← trim]

/-- Trimming leaves nothing of white space only. -/
theorem trim_eq_nil_iff (text : List Char) :
    trim text = [] ↔ ∀ c ∈ text, isSpace c = true := by
  obtain ⟨blanks, blank, split⟩ := exists_append_trimStart text
  rw [trim, trimEnd_eq_nil_iff]
  constructor
  · intro rest
    rw [split]
    exact List.forall_mem_append.mpr ⟨blank, rest⟩
  · intro all
    rw [(trimStart_eq_nil_iff text).mpr all]
    exact List.forall_mem_nil _

/-- Trimming the end before changes nothing. -/
theorem trim_trimEnd (text : List Char) : trim (trimEnd text) = trim text := by
  obtain ⟨blanks, blank, split⟩ := exists_trimEnd_append text
  calc trim (trimEnd text)
      = trim (trimEnd text ++ blanks) := (trim_append_of_blank blank _).symm
    _ = trim text := by rw [← split]

end Locution.Text
