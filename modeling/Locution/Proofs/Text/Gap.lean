import Locution.Text.WordChar
import Locution.Proofs.Text.Folding

/-! # Characters that stand between words

A character of ASCII that is neither a letter nor a digit nor the underscore is no part of a word in
a sentence, and no other character is equal to it up to case (`eq_of_foldEq_of_isGap`). So where a
text equals one that begins or ends with such a character, no word goes on across that end
(`SameFolded.head?_of_isGap`, `SameFolded.getLast?_of_isGap`).
-/

namespace Locution.Text

/-- Whether a character is of ASCII and neither a letter nor a digit nor the underscore. -/
def isGap (c : Char) : Bool :=
  decide (c.toNat < 128) && !c.isAlphanum && c != '_'

/-- A code point is its own image, or lies in a run, and its image among those of the run. -/
theorem imageCode_cases (runs : CodeMap) (code : Nat) :
    runs.imageCode code = code ∨ ∃ first last step image, (first, last, step, image) ∈ runs ∧
      image ≤ runs.imageCode code ∧ runs.imageCode code ≤ image + (last - first) := by
  induction runs with
  | nil => exact .inl rfl
  | cons run runs ih =>
      obtain ⟨first, last, step, image⟩ := run
      unfold CodeMap.imageCode
      split
      · exact .inl rfl
      · split
        · rename_i inside
          have upper : code ≤ last := of_decide_eq_true (Bool.and_eq_true_iff.mp inside).1
          exact .inr ⟨first, last, step, image, List.mem_cons_self, by omega, by omega⟩
        · rcases ih with own | ⟨first, last, step, image, member, bounds⟩
          · exact .inl own
          · exact .inr ⟨first, last, step, image, List.mem_cons_of_mem _ member, bounds⟩

/-- Whether the images of a run are small letters of ASCII or characters beyond ASCII. -/
def foldsToLetters : Nat × Nat × Nat × Nat → Bool
  | (first, last, _, image) =>
    let greatest := image + (last - first)
    (97 ≤ image && greatest ≤ 122 || 128 ≤ image) &&
      (greatest < 0xD800 || 0xDFFF < image && greatest < 0x110000)

/-- The runs of folding are gone through one by one. -/
theorem foldsToLetters_of_mem : ∀ run ∈ foldingRuns, foldsToLetters run = true := by
  decide +kernel

theorem gap_of_code : ∀ code < 128, isGap (Char.ofNat code) = true →
    isWordChar (Char.ofNat code) = false ∧ fold (Char.ofNat code) = Char.ofNat code ∧
      ¬ (97 ≤ code ∧ code ≤ 122) := by
  decide +kernel

/-- A character between words is of ASCII, belongs to no word, and is its own folding but no small
letter. -/
theorem gap_facts {c : Char} (gap : isGap c = true) :
    c.toNat < 128 ∧ isWordChar c = false ∧ fold c = c ∧ ¬ (97 ≤ c.toNat ∧ c.toNat ≤ 122) := by
  have ascii : c.toNat < 128 := by
    simp only [isGap, Bool.and_eq_true, decide_eq_true_eq] at gap
    exact gap.1.1
  have facts := gap_of_code c.toNat ascii
  rw [Char.ofNat_toNat] at facts
  exact ⟨ascii, facts gap⟩

/-- Between words stands no other character that is equal up to case. -/
theorem eq_of_foldEq_of_isGap {a b : Char} (gap : isGap a = true) (same : foldEq a b = true) :
    b = a := by
  obtain ⟨ascii, _, own, letter⟩ := gap_facts gap
  have folded : fold b = a := by
    rw [← own]
    exact (beq_iff_eq.mp same).symm
  rcases imageCode_cases foldingRuns b.toNat with
    itself | ⟨first, last, step, image, member, low, high⟩
  · rw [← folded, fold, CodeMap.image, itself, Char.ofNat_toNat]
  · exfalso
    have run := foldsToLetters_of_mem _ member
    simp only [foldsToLetters, Bool.and_eq_true, Bool.or_eq_true, decide_eq_true_eq] at run
    have valid : (foldingRuns.imageCode b.toNat).isValidChar := by
      unfold Nat.isValidChar
      omega
    have code : a.toNat = foldingRuns.imageCode b.toNat := by
      rw [← folded, fold, CodeMap.image, Char.ofNat, dif_pos valid]
      rfl
    omega

namespace SameFolded

/-- A text equal to one that begins with a character between words does not begin with a word. -/
theorem head?_of_isGap {wanted text : List Char} (same : SameFolded wanted text)
    (gap : wanted.head?.any isGap = true) (rest : List Char) :
    (text ++ rest).head?.any isWordChar = false := by
  cases same with
  | nil => cases gap
  | @cons a b wanted text equal _ =>
      have gapA : isGap a = true := gap
      obtain rfl := eq_of_foldEq_of_isGap gapA equal
      exact (gap_facts gapA).2.1

/-- A text equal to one that ends with a character between words does not end with a word. -/
theorem getLast?_of_isGap {wanted text : List Char} (same : SameFolded wanted text)
    (gap : wanted.getLast?.any isGap = true) (rest : List Char) :
    (rest ++ text).getLast?.any isWordChar = false := by
  have backwards : SameFolded wanted.reverse text.reverse := List.forall₂_reverse_iff.mpr same
  rw [← List.head?_reverse] at gap ⊢
  rw [List.reverse_append]
  exact backwards.head?_of_isGap gap rest.reverse

end SameFolded

end Locution.Text
