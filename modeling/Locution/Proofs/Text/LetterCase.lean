import Mathlib
import Locution.Proofs.Text.Gap
import Locution.Text.Blank
import Locution.Text.Offset

/-! # The case of letters

Two texts that differ at most in the case of ASCII letters (`SameLetters`) become one text when
these letters are made small. What templates and patterns ask about a character has the same answer
for a letter and its small form (`toLower_facts`), so trimming a text, dropping its beginning and
counting its bytes can be done before or after.
-/

namespace Locution.Text

/-- Whether two texts differ at most in the case of ASCII letters. -/
def SameLetters (text other : List Char) : Prop :=
  List.Forall₂ (fun a b => asciiFoldEq a b = true) text other

/-- Texts have the same letters when they have the same small form. -/
theorem sameLetters_iff {text other : List Char} :
    SameLetters text other ↔ text.map Char.toLower = other.map Char.toLower := by
  rw [← List.forall₂_eq_eq_eq, List.forall₂_map_left_iff, List.forall₂_map_right_iff]
  simp only [SameLetters, asciiFoldEq, beq_iff_eq]

/-- Beyond ASCII every character is its own small form. -/
theorem toLower_of_beyond {c : Char} (beyond : ¬ c.toNat < 128) : c.toLower = c := by
  have above : ¬ (c.val ≥ 'A'.val ∧ c.val ≤ 'Z'.val) := by
    rintro ⟨_, most⟩
    have below : c.toNat ≤ 90 := most
    omega
  rw [Char.toLower, dif_neg above]

/-- The code points of ASCII are gone through one by one. -/
theorem toLower_of_code : ∀ code < 128,
    (Char.ofNat code).toLower.toLower = (Char.ofNat code).toLower ∧
      isSpace (Char.ofNat code).toLower = isSpace (Char.ofNat code) ∧
      isTemplateWordChar (Char.ofNat code).toLower = isTemplateWordChar (Char.ofNat code) ∧
      isWordChar (Char.ofNat code).toLower = isWordChar (Char.ofNat code) ∧
      fold (Char.ofNat code).toLower = fold (Char.ofNat code) ∧
      (Char.ofNat code).toLower.utf8Size = (Char.ofNat code).utf8Size := by
  decide +kernel

/-- The small form of a character is what the character is, but for its case. -/
theorem toLower_facts (c : Char) :
    c.toLower.toLower = c.toLower ∧ isSpace c.toLower = isSpace c ∧
      isTemplateWordChar c.toLower = isTemplateWordChar c ∧
      isWordChar c.toLower = isWordChar c ∧ fold c.toLower = fold c ∧
      c.toLower.utf8Size = c.utf8Size := by
  by_cases ascii : c.toNat < 128
  · have facts := toLower_of_code c.toNat ascii
    rwa [Char.ofNat_toNat] at facts
  · rw [toLower_of_beyond ascii, toLower_of_beyond ascii]
    exact ⟨rfl, rfl, rfl, rfl, rfl, rfl⟩

@[simp]
theorem toLower_toLower (c : Char) : c.toLower.toLower = c.toLower :=
  (toLower_facts c).1

@[simp]
theorem isSpace_toLower (c : Char) : isSpace c.toLower = isSpace c :=
  (toLower_facts c).2.1

@[simp]
theorem isTemplateWordChar_toLower (c : Char) :
    isTemplateWordChar c.toLower = isTemplateWordChar c :=
  (toLower_facts c).2.2.1

@[simp]
theorem isWordChar_toLower (c : Char) : isWordChar c.toLower = isWordChar c :=
  (toLower_facts c).2.2.2.1

@[simp]
theorem fold_toLower (c : Char) : fold c.toLower = fold c :=
  (toLower_facts c).2.2.2.2.1

@[simp]
theorem utf8Size_toLower (c : Char) : c.toLower.utf8Size = c.utf8Size :=
  (toLower_facts c).2.2.2.2.2

/-- Only a character between words itself has it as its small form. -/
theorem eq_of_toLower_eq {c sign : Char} (gap : isGap sign = true) (same : c.toLower = sign) :
    c = sign := by
  apply eq_of_foldEq_of_isGap gap
  rw [foldEq, ← same, fold_toLower, beq_self_eq_true]

theorem toLower_of_isGap {sign : Char} (gap : isGap sign = true) : sign.toLower = sign := by
  apply eq_of_foldEq_of_isGap gap
  rw [foldEq, fold_toLower, beq_self_eq_true]

/-- Whether a character is a given one between words does not depend on its case. -/
theorem beq_toLower {sign : Char} (gap : isGap sign = true) (c : Char) :
    (c.toLower == sign) = (c == sign) := by
  rw [Bool.eq_iff_iff, beq_iff_eq, beq_iff_eq]
  constructor
  · exact eq_of_toLower_eq gap
  · intro same
    rw [same, toLower_of_isGap gap]

/-- Where a text begins with a character between words after its letters are made small, it begins
with this character. -/
theorem exists_eq_cons_of_map_toLower {text rest : List Char} {sign : Char}
    (gap : isGap sign = true) (same : text.map Char.toLower = sign :: rest) :
    ∃ behind, text = sign :: behind ∧ behind.map Char.toLower = rest := by
  obtain ⟨c, behind, rfl, small, others⟩ := List.map_eq_cons_iff.mp same
  obtain rfl := eq_of_toLower_eq gap small
  exact ⟨behind, rfl, others⟩

/-- White space in front does not depend on the case of letters. -/
theorem trimStart_map_toLower (text : List Char) :
    trimStart (text.map Char.toLower) = (trimStart text).map Char.toLower := by
  simp [trimStart, List.dropWhile_map, Function.comp_def]

/-- Trimming does not depend on the case of letters. -/
theorem trim_map_toLower (text : List Char) :
    trim (text.map Char.toLower) = (trim text).map Char.toLower := by
  simp [trim, trimEnd, trimStart_map_toLower, ← List.map_reverse]

theorem byteLength_map_toLower (text : List Char) :
    byteLength (text.map Char.toLower) = byteLength text := by
  induction text with
  | nil => rfl
  | cons c text ih =>
      simp only [byteLength, List.map_cons, List.foldr_cons, utf8Size_toLower] at ih ⊢
      rw [ih]

/-- A lead is dropped from a text in small letters as from the text, if the comparison does not look
at case. -/
theorem dropLead_map_toLower {same : Char → Char → Bool}
    (alike : ∀ a c, same a c.toLower = same a c) (lead text : List Char) :
    dropLead same lead (text.map Char.toLower) =
      (dropLead same lead text).map (List.map Char.toLower) := by
  fun_induction dropLead same lead text with
  | case1 => rfl
  | case2 => rfl
  | case3 a lead c text agree ih =>
      simp only [List.map_cons, dropLead, alike, agree, ↓reduceIte, ih]
  | case4 a lead c text differ =>
      simp only [List.map_cons, dropLead, alike, differ, Bool.false_eq_true, ↓reduceIte,
        Option.map_none]

theorem dropFolded_map_toLower (lead text : List Char) :
    dropFolded lead (text.map Char.toLower) = (dropFolded lead text).map (List.map Char.toLower) :=
  dropLead_map_toLower (fun a c => by simp only [foldEq, fold_toLower]) lead text

/-- Plain text in small letters is looked for as the text itself. -/
theorem dropFolded_lead_map_toLower (lead text : List Char) :
    dropFolded (lead.map Char.toLower) text = dropFolded lead text := by
  unfold dropFolded
  fun_induction dropLead foldEq lead text with
  | case1 => rfl
  | case2 => rfl
  | case3 a lead c text agree ih =>
      rw [foldEq] at agree
      simp only [List.map_cons, dropLead, foldEq, fold_toLower, agree, ↓reduceIte]
      exact ih
  | case4 a lead c text differ =>
      rw [foldEq] at differ
      simp only [List.map_cons, dropLead, foldEq, fold_toLower, differ, Bool.false_eq_true,
        ↓reduceIte]

end Locution.Text
