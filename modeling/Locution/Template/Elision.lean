import Locution.Text.Blank

/-!
# Elision at the end of a template

A tilde or three dots at the end of a template say that the sentence goes on freely. The markers
are cut off together with the white space around them, as many as there are; a template that does
not end in a marker stays as it is, with its white space.
-/

namespace Locution

open Text

/-- Whether a reversed text without white space in front begins with an elision marker. -/
def opensWithMarker : List Char → Bool
  | '~' :: _ => true
  | '.' :: '.' :: '.' :: _ => true
  | _ => false

/-- A marker is a tilde or three dots. -/
theorem opensWithMarker_iff {text : List Char} :
    opensWithMarker text = true ↔ ['~'] <+: text ∨ ['.', '.', '.'] <+: text := by
  constructor
  · intro marked
    fun_cases opensWithMarker text with
    | case1 rest => exact .inl (List.prefix_append ['~'] rest)
    | case2 rest => exact .inr (List.prefix_append ['.', '.', '.'] rest)
    | case3 untilded undotted =>
        unfold opensWithMarker at marked
        simp at marked
  · rintro (⟨rest, rfl⟩ | ⟨rest, rfl⟩) <;> rfl

/-- A reversed text without the white space and the elision markers in front. -/
def dropMarkers (text : List Char) : List Char :=
  match _rest : trimStart text with
  | '~' :: rest => dropMarkers rest
  | '.' :: '.' :: '.' :: rest => dropMarkers rest
  | rest => rest
termination_by text.length
decreasing_by
  all_goals
    have shorter := (List.dropWhile_sublist (l := text) isSpace).length_le
    simp only [trimStart] at _rest
    simp only [_rest, List.length_cons] at shorter
    omega

/-- White space in front does not matter. -/
theorem dropMarkers_of_space {c : Char} {text : List Char} (blank : isSpace c = true) :
    dropMarkers (c :: text) = dropMarkers text := by
  have same : trimStart (c :: text) = trimStart text := List.dropWhile_cons_of_pos blank
  rw [dropMarkers, dropMarkers, same]

/-- A tilde is dropped with the blanks in front of it. -/
theorem dropMarkers_of_tilde {text rest : List Char} (trimmed : trimStart text = '~' :: rest) :
    dropMarkers text = dropMarkers rest := by
  rw [dropMarkers]
  split <;> simp_all

/-- Three dots are dropped with the blanks in front of them. -/
theorem dropMarkers_of_dots {text rest : List Char}
    (trimmed : trimStart text = '.' :: '.' :: '.' :: rest) :
    dropMarkers text = dropMarkers rest := by
  rw [dropMarkers]
  split <;> simp_all

/-- Where no marker opens, only the blanks are dropped. -/
theorem dropMarkers_of_not_opens {text : List Char}
    (unmarked : opensWithMarker (trimStart text) = false) : dropMarkers text = trimStart text := by
  rw [dropMarkers]
  split <;> simp_all [opensWithMarker]

/-- No marker stands in front of what is left. -/
theorem opensWithMarker_dropMarkers (text : List Char) :
    opensWithMarker (dropMarkers text) = false := by
  fun_induction dropMarkers text with
  | case1 _ _ _ ih => exact ih
  | case2 _ _ _ ih => exact ih
  | case3 text untilded undotted =>
      unfold opensWithMarker
      split
      · exact absurd ‹_› (untilded _)
      · exact absurd ‹_› (undotted _)
      · rfl

/-- A template without the elision markers at its end. -/
def dropElision (template : List Char) : List Char :=
  if opensWithMarker (trimStart template.reverse) then (dropMarkers template.reverse).reverse
  else template

end Locution
