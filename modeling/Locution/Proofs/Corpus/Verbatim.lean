import Locution.Proofs.Corpus.NormalForm

/-! # The words of a normal form

A normal form is made of words with one blank between each two of them
(`normalForm_eq_joined_wordsIn`). Whether an expression stands in a text is tested on the normal
forms as they are, not on their words. So the words of the expression are found one after the other,
but the first of them may be the end of a longer word of the text and the last of them the beginning
of one (`isVerbatim_iff_words`).
-/

namespace Locution

open Text

/-- The words of the normal form of a text. -/
def wordsIn (text : String) : List (List Char) :=
  wordsOf (normalize text).toList

/-- A normal form is made of its words. -/
theorem normalForm_eq_joined_wordsIn (text : String) :
    AreWords (wordsIn text) ∧ normalForm text.toList = joined (wordsIn text) := by
  have form := normalForm_eq_joined text.toList
  have apart : AreWords (runsOf isPlainWordChar (text.toList.flatMap lowerChar)) :=
    areWords_runsOf _
  have same : wordsIn text = runsOf isPlainWordChar (text.toList.flatMap lowerChar) := by
    rw [wordsIn, normalize, String.toList_ofList, form]
    exact wordsOf_joined apart
  rw [same]
  exact ⟨apart, form⟩

/-- An expression occurs verbatim when its words stand in the text, the first one perhaps with more
letters in front and the last one with more behind. -/
theorem isVerbatim_iff_exists_widened (expression text : String) :
    isVerbatim expression text = true ↔
      ∃ head tail, widened head (wordsIn expression) tail <:+: wordsIn text := by
  obtain ⟨wordsApart, wordsForm⟩ := normalForm_eq_joined_wordsIn expression
  obtain ⟨textApart, textForm⟩ := normalForm_eq_joined_wordsIn text
  rw [isVerbatim, occursIn_iff, wordsForm, textForm]
  exact joined_infix_joined_iff wordsApart textApart

/-- **An expression is found word for word, or else its first or last word is a part of a longer
one.** It counts as standing in a text exactly when its words occur one after the other among the
words of the text, or would do so with something put before the first or after the last of them. -/
theorem isVerbatim_iff_words (expression text : String) :
    isVerbatim expression text = true ↔
      wordsIn expression <:+: wordsIn text ∨
        ∃ head tail, (head ≠ [] ∨ tail ≠ []) ∧
          widened head (wordsIn expression) tail <:+: wordsIn text := by
  rw [isVerbatim_iff_exists_widened]
  constructor
  · rintro ⟨head, tail, shown⟩
    by_cases longer : head ≠ [] ∨ tail ≠ []
    · exact .inr ⟨head, tail, longer, shown⟩
    · obtain ⟨rfl, rfl⟩ : head = [] ∧ tail = [] := by simpa using longer
      rw [widened_nil_nil] at shown
      exact .inl shown
  · rintro (whole | ⟨head, tail, _, shown⟩)
    · refine ⟨[], [], ?_⟩
      rw [widened_nil_nil]
      exact whole
    · exact ⟨head, tail, shown⟩

/-- Two words are found in longer ones, among whose words they do not occur. -/
theorem isVerbatim_upon_boarding :
    ¬ (isVerbatim "on board" "Upon boarding the train, call me." = true ↔
      wordsIn "on board" <:+: wordsIn "Upon boarding the train, call me.") := by
  decide +kernel

end Locution
