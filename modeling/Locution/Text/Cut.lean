/-!
# Cutting texts at signs

A text is cut at every sign of a kind into the parts between them; there is always at least one
part (`cut_ne_nil`), and no part holds such a sign (`sign_not_mem_of_mem_cut`). The first part is
what stands before the first sign (`cut_append_sign`).
-/

namespace Locution.Text

/-- The parts of a text between the signs that cut it. -/
def cut (isSign : Char → Bool) : List Char → List (List Char)
  | [] => [[]]
  | c :: rest =>
    if isSign c then [] :: cut isSign rest
    else
      match cut isSign rest with
      | [] => [[c]]
      | part :: parts => (c :: part) :: parts

/-- A text has at least one part. -/
theorem cut_ne_nil (isSign : Char → Bool) (text : List Char) : cut isSign text ≠ [] := by
  cases text with
  | nil => exact List.cons_ne_nil _ _
  | cons c rest =>
    unfold cut
    split
    · exact List.cons_ne_nil _ _
    · split <;> exact List.cons_ne_nil _ _

/-- A sign that cuts stands in no part. -/
theorem sign_not_mem_of_mem_cut {isSign : Char → Bool} {text part : List Char} {c : Char}
    (sign : isSign c = true) (mem : part ∈ cut isSign text) : c ∉ part := by
  induction text generalizing part with
  | nil =>
    obtain rfl := List.mem_singleton.1 mem
    exact List.not_mem_nil
  | cons d rest ih =>
    unfold cut at mem
    split at mem
    · rcases List.mem_cons.1 mem with rfl | later
      · exact List.not_mem_nil
      · exact ih later
    · rename_i other
      have apart : c ≠ d := fun same => other (same ▸ sign)
      split at mem
      · obtain rfl := List.mem_singleton.1 mem
        exact fun inside => apart (List.mem_singleton.1 inside)
      · rename_i first parts split
        rcases List.mem_cons.1 mem with rfl | later
        · intro inside
          rcases List.mem_cons.1 inside with same | deeper
          · exact apart same
          · exact ih (split ▸ List.mem_cons_self) deeper
        · exact ih (split ▸ List.mem_cons_of_mem _ later)

/-- A text without a sign is one part. -/
theorem cut_of_forall_not {isSign : Char → Bool} {part : List Char}
    (none : ∀ c ∈ part, isSign c = false) : cut isSign part = [part] := by
  induction part with
  | nil => rfl
  | cons c part ih =>
      obtain ⟨first, others⟩ := List.forall_mem_cons.mp none
      rw [cut, first, if_neg Bool.false_ne_true, ih others]

/-- What stands before the first sign is the first part. -/
theorem cut_append_sign {isSign : Char → Bool} {part : List Char} {sign : Char}
    (none : ∀ c ∈ part, isSign c = false) (ends : isSign sign = true) (rest : List Char) :
    cut isSign (part ++ sign :: rest) = part :: cut isSign rest := by
  induction part with
  | nil => rw [List.nil_append, cut, if_pos ends]
  | cons c part ih =>
      obtain ⟨first, others⟩ := List.forall_mem_cons.mp none
      rw [List.cons_append, cut, first, if_neg Bool.false_ne_true, ih others]

end Locution.Text
