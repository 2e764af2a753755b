import Mathlib.Data.List.Forall2
import Locution.Text.Folding

/-! # Texts that are equal up to case

Two texts are equal up to case when they have equally many characters and these are equal one by one
up to simple case folding. A lead can be dropped from a text exactly when the text begins with an
equal one (`dropFolded_eq_some_iff`).
-/

namespace Locution.Text

/-- Whether two texts are equal character by character, up to simple case folding. -/
def SameFolded (wanted text : List Char) : Prop :=
  List.Forall₂ (fun a b => foldEq a b = true) wanted text

/-- A lead is dropped exactly from the texts that begin with one that is equal character by
character. -/
theorem dropLead_eq_some_iff {same : Char → Char → Bool} {lead text rest : List Char} :
    dropLead same lead text = some rest ↔
      ∃ taken, List.Forall₂ (fun a b => same a b = true) lead taken ∧ text = taken ++ rest := by
  induction lead generalizing text with
  | nil =>
      simp only [dropLead, Option.some.injEq, List.forall₂_nil_left_iff, exists_eq_left,
        List.nil_append]
  | cons a lead ih =>
      cases text with
      | nil =>
          simp only [dropLead, reduceCtorEq, List.forall₂_cons_left_iff, false_iff]
          rintro ⟨taken, ⟨b, others, _, _, rfl⟩, impossible⟩
          cases impossible
      | cons c text =>
          by_cases agree : same a c = true
          · simp only [dropLead, agree, ↓reduceIte, ih, List.forall₂_cons_left_iff]
            constructor
            · rintro ⟨taken, equal, rfl⟩
              exact ⟨c :: taken, ⟨c, taken, agree, equal, rfl⟩, rfl⟩
            · rintro ⟨taken, ⟨b, others, _, equal, rfl⟩, split⟩
              obtain ⟨rfl, rfl⟩ := List.cons.inj split
              exact ⟨others, equal, rfl⟩
          · simp only [dropLead, agree, Bool.false_eq_true, ↓reduceIte, reduceCtorEq, false_iff,
              List.forall₂_cons_left_iff]
            rintro ⟨taken, ⟨b, others, alike, _, rfl⟩, split⟩
            obtain ⟨rfl, rfl⟩ := List.cons.inj split
            exact agree alike

/-- A lead is dropped exactly from the texts that begin with an equal one. -/
theorem dropFolded_eq_some_iff {lead text rest : List Char} :
    dropFolded lead text = some rest ↔ ∃ taken, SameFolded lead taken ∧ text = taken ++ rest :=
  dropLead_eq_some_iff

theorem SameFolded.length_eq {wanted text : List Char} (same : SameFolded wanted text) :
    wanted.length = text.length :=
  List.Forall₂.length_eq same

/-- A lead can be dropped exactly when the text is long enough and begins with an equal one. -/
theorem isSome_dropFolded_iff {lead text : List Char} :
    (dropFolded lead text).isSome = true ↔
      lead.length ≤ text.length ∧ SameFolded lead (text.take lead.length) := by
  rw [Option.isSome_iff_exists]
  constructor
  · rintro ⟨rest, dropped⟩
    obtain ⟨taken, same, rfl⟩ := dropFolded_eq_some_iff.mp dropped
    rw [same.length_eq, List.take_left' rfl, List.length_append]
    exact ⟨Nat.le_add_right _ _, same⟩
  · rintro ⟨_, same⟩
    exact ⟨text.drop lead.length,
      dropFolded_eq_some_iff.mpr ⟨_, same, (List.take_append_drop _ _).symm⟩⟩

end Locution.Text
