import Locution.Text.Offset
import Locution.Proofs.Text.Folding

/-! # The first part of a text that equals another one

Looking for a text finds the first place at which as many characters equal it up to case
(`findFolded?_eq_some_iff`), and finds nothing only where no such place is
(`findFolded?_eq_none_iff`).
-/

namespace Locution.Text

/-- Whether the characters of a text from a place on equal a wanted text up to case. -/
def IsWindow (wanted text : List Char) (first : Nat) : Prop :=
  first + wanted.length ≤ text.length ∧
    SameFolded wanted (slice text first (first + wanted.length))

/-- Whether a place is the first one from which the characters equal a wanted text. -/
def IsFirstWindow (wanted text : List Char) (first : Nat) : Prop :=
  IsWindow wanted text first ∧ ∀ earlier < first, ¬ IsWindow wanted text earlier

/-- A wanted text stands at the beginning when it can be dropped there. -/
theorem isWindow_zero_iff (wanted text : List Char) :
    IsWindow wanted text 0 ↔ (dropFolded wanted text).isSome = true := by
  rw [isSome_dropFolded_iff, IsWindow, slice, Nat.zero_add, Nat.sub_zero, List.drop_zero]

/-- Behind one character the places are those of the rest, moved by one. -/
theorem isWindow_succ_iff (wanted : List Char) (c : Char) (text : List Char) (first : Nat) :
    IsWindow wanted (c :: text) (first + 1) ↔ IsWindow wanted text first := by
  have later : first + 1 + wanted.length = first + wanted.length + 1 := by omega
  simp only [IsWindow, slice, later, List.length_cons, Nat.add_le_add_iff_right,
    List.drop_succ_cons, Nat.add_sub_add_right]

theorem isWindow_nil_iff (wanted : List Char) (first : Nat) :
    IsWindow wanted [] first ↔ wanted = [] ∧ first = 0 := by
  constructor
  · rintro ⟨within, _⟩
    simp only [List.length_nil, Nat.le_zero, Nat.add_eq_zero_iff, List.length_eq_zero_iff] at within
    exact ⟨within.2, within.1⟩
  · rintro ⟨rfl, rfl⟩
    exact ⟨Nat.le_refl 0, .nil⟩

/-- What is found is the first place. -/
theorem isFirstWindow_of_findFolded? {wanted text : List Char} {first : Nat}
    (found : findFolded? wanted text = some first) : IsFirstWindow wanted text first := by
  induction text generalizing first with
  | nil =>
      rw [findFolded?] at found
      split at found
      · rename_i empty
        obtain rfl := Option.some.inj found
        refine ⟨?_, fun earlier below => absurd below (Nat.not_lt_zero earlier)⟩
        exact (isWindow_nil_iff wanted 0).mpr ⟨List.isEmpty_iff.mp empty, rfl⟩
      · cases found
  | cons c text ih =>
      rw [findFolded?] at found
      split at found
      · rename_i here
        obtain rfl := Option.some.inj found
        refine ⟨?_, fun earlier below => absurd below (Nat.not_lt_zero earlier)⟩
        exact (isWindow_zero_iff wanted (c :: text)).mpr here
      · rename_i apart
        obtain ⟨place, later, rfl⟩ := Option.map_eq_some_iff.mp found
        obtain ⟨window, leftmost⟩ := ih later
        refine ⟨(isWindow_succ_iff wanted c text place).mpr window, fun earlier below => ?_⟩
        cases earlier with
        | zero => rwa [isWindow_zero_iff]
        | succ earlier =>
            rw [isWindow_succ_iff]
            exact leftmost earlier (Nat.lt_of_succ_lt_succ below)

/-- What is not found stands nowhere. -/
theorem not_isWindow_of_findFolded? {wanted text : List Char}
    (missed : findFolded? wanted text = none) (first : Nat) : ¬ IsWindow wanted text first := by
  induction text generalizing first with
  | nil =>
      rw [findFolded?] at missed
      split at missed
      · cases missed
      · rename_i filled
        rw [isWindow_nil_iff]
        rintro ⟨rfl, _⟩
        exact filled rfl
  | cons c text ih =>
      rw [findFolded?] at missed
      split at missed
      · cases missed
      · rename_i apart
        cases first with
        | zero => rwa [isWindow_zero_iff]
        | succ first =>
            rw [isWindow_succ_iff]
            exact ih (Option.map_eq_none_iff.mp missed) first

theorem IsFirstWindow.unique {wanted text : List Char} {first second : Nat}
    (one : IsFirstWindow wanted text first) (other : IsFirstWindow wanted text second) :
    first = second := by
  rcases Nat.lt_trichotomy first second with below | same | above
  · exact absurd one.1 (other.2 first below)
  · exact same
  · exact absurd other.1 (one.2 second above)

/-- Looking for a text finds the first place that has it. -/
theorem findFolded?_eq_some_iff {wanted text : List Char} {first : Nat} :
    findFolded? wanted text = some first ↔ IsFirstWindow wanted text first := by
  constructor
  · exact isFirstWindow_of_findFolded?
  · intro window
    cases found : findFolded? wanted text with
    | none => exact absurd window.1 (not_isWindow_of_findFolded? found first)
    | some place => rw [(isFirstWindow_of_findFolded? found).unique window]

/-- Looking for a text finds nothing exactly when no place has it. -/
theorem findFolded?_eq_none_iff {wanted text : List Char} :
    findFolded? wanted text = none ↔ ∀ first, ¬ IsWindow wanted text first := by
  constructor
  · exact not_isWindow_of_findFolded?
  · intro absent
    cases found : findFolded? wanted text with
    | none => rfl
    | some place => exact absurd (isFirstWindow_of_findFolded? found).1 (absent place)

/-- A text that stands somewhere stands somewhere first, and no later. -/
theorem IsWindow.exists_first {wanted text : List Char} {place : Nat}
    (window : IsWindow wanted text place) : ∃ first ≤ place, IsFirstWindow wanted text first := by
  cases found : findFolded? wanted text with
  | none => exact absurd window (findFolded?_eq_none_iff.mp found place)
  | some first =>
      have leftmost := findFolded?_eq_some_iff.mp found
      exact ⟨first, Nat.le_of_not_lt fun below => leftmost.2 place below window, leftmost⟩

end Locution.Text
