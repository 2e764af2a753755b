import Locution.Proofs.Report.Plain

/-! # Reports in colour

In colour a report has sequences for the terminal between its texts. Each sequence goes from an
escape to the next `m`. When no text of the report has an escape of its own, the sequences can be
told from the texts, and without them the report is its plain form (`uncoloured_written`).
-/

namespace Locution.Report

/-- A text without the sequences for the terminal in it, from inside of one or not. -/
def shownFrom (inside : Bool) : List Char → List Char
  | [] => []
  | c :: rest =>
    if inside then shownFrom (c != 'm') rest
    else if c = '\x1b' then shownFrom true rest
    else c :: shownFrom false rest

/-- A text without the sequences for the terminal in it. -/
def uncoloured (text : String) : String :=
  String.ofList (shownFrom false text.toList)

/-- Whether no text of a report has an escape of its own. -/
inductive IsUnescaped : List Mark → Prop where
  | nil : IsUnescaped []
  | text {words : String} {marks : List Mark} (unescaped : '\x1b' ∉ words.toList)
      (later : IsUnescaped marks) : IsUnescaped (.text words :: marks)
  | look {look : Look} {marks : List Mark} (later : IsUnescaped marks) :
      IsUnescaped (.look look :: marks)
  | reset {marks : List Mark} (later : IsUnescaped marks) : IsUnescaped (.reset :: marks)

/-- Whether a text is not shown, whatever stands behind it. -/
def IsHidden (text : String) : Prop :=
  ∀ rest, shownFrom false (text.toList ++ rest) = shownFrom false rest

/-- Text without an escape character is shown as it is. -/
theorem shownFrom_append {text : List Char} (unescaped : '\x1b' ∉ text) (rest : List Char) :
    shownFrom false (text ++ rest) = text ++ shownFrom false rest := by
  induction text with
  | nil => rfl
  | cons c text ih =>
      rw [List.mem_cons, not_or] at unescaped
      have other : c ≠ '\x1b' := fun same => unescaped.1 same.symm
      rw [List.cons_append, shownFrom, if_neg Bool.false_ne_true, if_neg other, ih unescaped.2,
        List.cons_append]

/-- A sequence ends at the first `m`. -/
theorem shownFrom_inside {code : List Char} (unended : 'm' ∉ code) (rest : List Char) :
    shownFrom true (code ++ 'm' :: rest) = shownFrom false rest := by
  induction code with
  | nil => rfl
  | cons c code ih =>
      rw [List.mem_cons, not_or] at unended
      have other : (c != 'm') = true := bne_iff_ne.mpr fun same => unended.1 same.symm
      rw [List.cons_append, shownFrom, if_pos rfl, other, ih unended.2]

namespace IsHidden

theorem empty : IsHidden "" := fun _ => rfl

theorem append {first second : String} (before : IsHidden first) (behind : IsHidden second) :
    IsHidden (first ++ second) := by
  intro rest
  rw [String.toList_append, List.append_assoc, before, behind]

/-- A sequence for the terminal is not shown. -/
theorem sequence {code : String} (unended : 'm' ∉ code.toList) :
    IsHidden (Report.sequence code) := by
  intro rest
  rw [Report.sequence, String.toList_append, String.toList_append, List.append_assoc,
    List.append_assoc]
  have unendedInside : 'm' ∉ '[' :: code.toList := by simp [unended]
  exact shownFrom_inside unendedInside rest

/-- The sequences of a look are not shown. -/
theorem sequences (look : Look) : IsHidden look.sequences := by
  have bold : IsHidden (if look.bold then Report.sequence "1" else "") := by
    split
    · exact sequence (by decide)
    · exact empty
  have dim : IsHidden (if look.dim then Report.sequence "2" else "") := by
    split
    · exact sequence (by decide)
    · exact empty
  have colour : IsHidden ((look.colour.map Colour.sequence).getD "") := by
    cases look.colour with
    | none => exact empty
    | some colour =>
        cases colour with
        | red => exact sequence (by decide)
        | green => exact sequence (by decide)
        | yellow => exact sequence (by decide)
  exact (((sequence (by decide)).append bold).append dim).append colour

end IsHidden

/-- Marks without escapes behind such marks have no escapes. -/
theorem IsUnescaped.append {first second : List Mark} (before : IsUnescaped first)
    (behind : IsUnescaped second) : IsUnescaped (first ++ second) := by
  induction before with
  | nil => exact behind
  | text unescaped _ ih => exact .text unescaped ih
  | look _ ih => exact .look ih
  | reset _ ih => exact .reset ih

/-- Text with a look of its own has no escapes if the text has none. -/
theorem isUnescaped_styled {look : Look} {text : String} (unescaped : '\x1b' ∉ text.toList) :
    IsUnescaped (styled look text) :=
  .look (.text unescaped (.reset .nil))

theorem isUnescaped_newline : IsUnescaped [.newline] :=
  .text (by decide) .nil

/-- However the changes are written, as long as they are hidden, the texts are what is shown. -/
theorem shownFrom_join (form : Mark → String) (texts : ∀ words, form (.text words) = words)
    (looks : ∀ look, IsHidden (form (.look look))) (resets : IsHidden (form .reset))
    {marks : List Mark} (unescaped : IsUnescaped marks) :
    shownFrom false (String.join (marks.map form)).toList = (plain marks).toList := by
  induction unescaped with
  | nil => rfl
  | text unescaped _ ih =>
      rw [List.map_cons, String.join_cons, String.toList_append, texts, shownFrom_append unescaped,
        ih, plain_cons, String.toList_append, Mark.plain]
  | look _ ih =>
      rw [List.map_cons, String.join_cons, String.toList_append, looks, ih, plain_cons, Mark.plain,
        String.empty_append]
  | reset _ ih =>
      rw [List.map_cons, String.join_cons, String.toList_append, resets, ih, plain_cons, Mark.plain,
        String.empty_append]

/-- **Without the sequences a report in colour is its plain form.** -/
theorem uncoloured_written (colour : Bool) {marks : List Mark} (unescaped : IsUnescaped marks) :
    uncoloured (written colour marks) = plain marks := by
  have shown : shownFrom false (written colour marks).toList = (plain marks).toList := by
    cases colour with
    | false =>
        exact shownFrom_join Mark.plain (fun _ => rfl) (fun _ => .empty) .empty unescaped
    | true =>
        exact shownFrom_join Mark.coloured (fun _ => rfl) .sequences (.sequence (by decide))
          unescaped
  rw [uncoloured, shown, String.ofList_toList]

end Locution.Report
