import Locution.Text.Lowercase
import Locution.Proofs.Text.Folding

/-! # Lowercase and folding

Two texts that are equal up to simple case folding have one lowercase, if each of their characters
has the lowercase of what it folds to and none is a capital sigma, whose lowercase depends on its
neighbours (`lowercase_eq_of_sameFolded`). All characters of ASCII are of this kind. The long s, the
micro sign and the final sigma are not: they are lowercase as they stand, and fold to other letters.
-/

namespace Locution.Text

/-- Whether a character has the lowercase of what it folds to, wherever it stands. -/
def keepsLowercase (c : Char) : Bool :=
  c != 'Σ' && lowerChar (fold c) == lowerChar c

/-- The code points of ASCII are gone through one by one. -/
theorem keepsLowercase_of_code : ∀ code < 128, keepsLowercase (Char.ofNat code) = true := by
  decide +kernel

/-- A character of ASCII keeps its lowercase under folding. -/
theorem keepsLowercase_of_ascii {c : Char} (ascii : c.toNat < 128) : keepsLowercase c = true := by
  have kept := keepsLowercase_of_code c.toNat ascii
  rwa [Char.ofNat_toNat] at kept

theorem keepsLowercase_of_all_ascii {text : List Char}
    (ascii : text.all (fun c => c.toNat < 128) = true) : ∀ c ∈ text, keepsLowercase c = true := by
  intro c member
  have below := List.all_eq_true.mp ascii c member
  exact keepsLowercase_of_ascii (of_decide_eq_true below)

/-- Without a capital sigma every character is made lowercase by itself. -/
theorem lowerAfter_eq_flatMap {text : List Char} (kept : ∀ c ∈ text, keepsLowercase c = true)
    (before : List Char) : lowerAfter before text = text.flatMap lowerChar := by
  induction text generalizing before with
  | nil => rfl
  | cons c text ih =>
      obtain ⟨first, others⟩ := List.forall_mem_cons.mp kept
      have apart : (c == 'Σ') = false := by
        simp only [keepsLowercase, Bool.and_eq_true, bne_iff_ne] at first
        exact beq_eq_false_iff_ne.mpr first.1
      rw [lowerAfter, apart, if_neg Bool.false_ne_true, ih others, List.flatMap_cons]

/-- Characters that fold to one, and keep their lowercase, have one lowercase. -/
theorem lowerChar_eq_of_foldEq {a b : Char} (keptA : keepsLowercase a = true)
    (keptB : keepsLowercase b = true) (same : foldEq a b = true) : lowerChar a = lowerChar b := by
  simp only [keepsLowercase, Bool.and_eq_true, beq_iff_eq] at keptA keptB
  calc lowerChar a = lowerChar (fold a) := keptA.2.symm
    _ = lowerChar (fold b) := congrArg lowerChar (beq_iff_eq.mp same)
    _ = lowerChar b := keptB.2

/-- Texts that are equal up to case agree when every character is made lowercase by itself. -/
theorem flatMap_lowerChar_eq_of_sameFolded {wanted text : List Char}
    (same : SameFolded wanted text) (keptWanted : ∀ c ∈ wanted, keepsLowercase c = true)
    (keptText : ∀ c ∈ text, keepsLowercase c = true) :
    text.flatMap lowerChar = wanted.flatMap lowerChar := by
  induction same with
  | nil => rfl
  | cons equal _ ih =>
      obtain ⟨keptA, othersWanted⟩ := List.forall_mem_cons.mp keptWanted
      obtain ⟨keptB, othersText⟩ := List.forall_mem_cons.mp keptText
      rw [List.flatMap_cons, List.flatMap_cons, ih othersWanted othersText,
        lowerChar_eq_of_foldEq keptA keptB equal]

/-- Texts that are equal up to folding, and keep their lowercase, have one lowercase. -/
theorem lowercase_eq_of_sameFolded {wanted text : List Char} (same : SameFolded wanted text)
    (keptWanted : ∀ c ∈ wanted, keepsLowercase c = true)
    (keptText : ∀ c ∈ text, keepsLowercase c = true) : lowercase text = lowercase wanted := by
  rw [lowercase, lowercase, lowerAfter_eq_flatMap keptText, lowerAfter_eq_flatMap keptWanted,
    flatMap_lowerChar_eq_of_sameFolded same keptWanted keptText]

end Locution.Text
