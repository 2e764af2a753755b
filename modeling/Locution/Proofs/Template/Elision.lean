import Locution.Proofs.Template.Printed
import Locution.Proofs.Template.Scan
import Locution.Proofs.Text.Trim

/-! # Elision around an expression

An elision is a text of white space and elision markers, in any number and order. What is cut off
at the end of a template is the longest one: it is an elision (`exists_append_dropMarkers`), no
white space and no marker stands before it (`isBare_dropMarkers`), and more of the same makes no
difference (`dropMarkers_append`). The segments of an expression are read from what stands before
its closing elision, so an expression with more elision behind it is made ready in the same way, and
one that is an elision has nothing to look for (`Idiom.ofExpression_around`).
-/

namespace Locution

open Text

/-- Whether a text is made of white space and elision markers, in any number and order. -/
inductive IsElision : List Char → Prop where
  | nil : IsElision []
  | space {c : Char} {text : List Char} (blank : isSpace c = true) (rest : IsElision text) :
      IsElision (c :: text)
  | tilde {text : List Char} (rest : IsElision text) : IsElision ('~' :: text)
  | dots {text : List Char} (rest : IsElision text) : IsElision ('.' :: '.' :: '.' :: text)

/-- Whether a reversed text begins with neither white space nor an elision marker. -/
structure IsBare (text : List Char) : Prop where
  solid : text.head?.any isSpace = false
  unmarked : opensWithMarker text = false

section Elision

variable {before after text blanks : List Char}

namespace IsElision

/-- An elision behind an elision is an elision. -/
theorem append (first : IsElision before) (second : IsElision after) :
    IsElision (before ++ after) := by
  induction first with
  | nil => exact second
  | space blank _ ih => exact .space blank ih
  | tilde _ ih => exact .tilde ih
  | dots _ ih => exact .dots ih

/-- Blanks alone are an elision. -/
theorem of_blank (blank : ∀ c ∈ text, isSpace c = true) : IsElision text := by
  induction text with
  | nil => exact .nil
  | cons c text ih =>
      obtain ⟨first, others⟩ := List.forall_mem_cons.mp blank
      exact .space first (ih others)

/-- A marker is the same from both sides. -/
theorem reverse (elided : IsElision text) : IsElision text.reverse := by
  induction elided with
  | nil => exact .nil
  | space blank _ ih =>
      rw [List.reverse_cons]
      exact ih.append (.space blank .nil)
  | tilde _ ih =>
      rw [List.reverse_cons]
      exact ih.append (.tilde .nil)
  | dots _ ih =>
      simp only [List.reverse_cons, List.append_assoc, List.cons_append, List.nil_append]
      exact ih.append (.dots .nil)

/-- An elision read backwards is an elision. -/
theorem reverse_iff : IsElision text.reverse ↔ IsElision text := by
  constructor
  · intro elided
    rw [← List.reverse_reverse text]
    exact elided.reverse
  · exact IsElision.reverse

end IsElision

/-- The characters of an elision are white space and those of markers. -/
theorem IsElision.of_mem (elided : IsElision text) {c : Char} (member : c ∈ text) :
    isSpace c = true ∨ c = '~' ∨ c = '.' := by
  induction elided with
  | nil => cases member
  | space blank _ ih =>
      rcases List.mem_cons.mp member with rfl | later
      · exact .inl blank
      · exact ih later
  | tilde _ ih =>
      rcases List.mem_cons.mp member with rfl | later
      · exact .inr (.inl rfl)
      · exact ih later
  | dots _ ih =>
      simp only [List.mem_cons] at member
      rcases member with rfl | rfl | rfl | later
      · exact .inr (.inr rfl)
      · exact .inr (.inr rfl)
      · exact .inr (.inr rfl)
      · exact ih later

/-- An elision in front is dropped with the rest of them. -/
theorem dropMarkers_append (elided : IsElision before) (text : List Char) :
    dropMarkers (before ++ text) = dropMarkers text := by
  induction elided with
  | nil => rfl
  | space blank _ ih =>
      rw [List.cons_append, dropMarkers_of_space blank, ih]
  | @tilde before _ ih =>
      have trimmed : trimStart ('~' :: before ++ text) = '~' :: (before ++ text) := rfl
      rw [dropMarkers_of_tilde trimmed, ih]
  | @dots before _ ih =>
      have trimmed : trimStart ('.' :: '.' :: '.' :: before ++ text) =
          '.' :: '.' :: '.' :: (before ++ text) := rfl
      rw [dropMarkers_of_dots trimmed, ih]

/-- What is dropped is an elision. -/
theorem exists_append_dropMarkers (text : List Char) :
    ∃ before, IsElision before ∧ text = before ++ dropMarkers text := by
  fun_induction dropMarkers text with
  | case1 text rest trimmed ih =>
      obtain ⟨blanks, blank, split⟩ := exists_append_trimStart text
      obtain ⟨before, elided, spelled⟩ := ih
      refine ⟨blanks ++ '~' :: before, (IsElision.of_blank blank).append (.tilde elided), ?_⟩
      rw [List.append_assoc, List.cons_append, ← spelled, ← trimmed, ← split]
  | case2 text rest trimmed ih =>
      obtain ⟨blanks, blank, split⟩ := exists_append_trimStart text
      obtain ⟨before, elided, spelled⟩ := ih
      refine ⟨blanks ++ '.' :: '.' :: '.' :: before,
        (IsElision.of_blank blank).append (.dots elided), ?_⟩
      simp only [List.append_assoc, List.cons_append]
      rw [← spelled, ← trimmed, ← split]
  | case3 text untilded undotted =>
      obtain ⟨blanks, blank, split⟩ := exists_append_trimStart text
      exact ⟨blanks, IsElision.of_blank blank, split⟩

/-- Nothing that could be dropped stands in front of what is left. -/
theorem isBare_dropMarkers (text : List Char) : IsBare (dropMarkers text) := by
  refine ⟨?_, opensWithMarker_dropMarkers text⟩
  fun_induction dropMarkers text with
  | case1 _ _ _ ih => exact ih
  | case2 _ _ _ ih => exact ih
  | case3 text _ _ =>
      have first := List.head?_dropWhile_not isSpace text
      rw [trimStart]
      cases begins : (text.dropWhile isSpace).head? with
      | none => rfl
      | some c =>
          rw [begins] at first
          exact first

theorem IsBare.trimStart_eq (bare : IsBare text) : trimStart text = text := by
  cases text with
  | nil => rfl
  | cons c text =>
      have solid : isSpace c = false := bare.solid
      exact List.dropWhile_cons_of_neg (Bool.eq_false_iff.mp solid)

theorem IsBare.dropMarkers_eq (bare : IsBare text) : dropMarkers text = text := by
  have unmarked : opensWithMarker (trimStart text) = false := by
    rw [bare.trimStart_eq]
    exact bare.unmarked
  rw [dropMarkers_of_not_opens unmarked, bare.trimStart_eq]

/-- Dropping leaves nothing just when the whole text is an elision. -/
theorem dropMarkers_eq_nil_iff : dropMarkers text = [] ↔ IsElision text := by
  constructor
  · intro nothing
    obtain ⟨before, elided, split⟩ := exists_append_dropMarkers text
    rw [split, nothing, List.append_nil]
    exact elided
  · intro elided
    have bare : IsBare [] := ⟨rfl, rfl⟩
    rw [← List.append_nil text, dropMarkers_append elided, bare.dropMarkers_eq]

/-- A text without white space does not begin in another one and end in white space behind it. -/
theorem prefix_of_prefix_append_blank {mark : List Char} (solid : ∀ c ∈ mark, isSpace c = false)
    (blank : ∀ c ∈ blanks, isSpace c = true) (begins : mark <+: text ++ blanks) :
    mark <+: text := by
  rcases List.prefix_or_prefix_of_prefix begins (List.prefix_append text blanks) with
    short | ⟨more, rfl⟩
  · exact short
  · have within : more <+: blanks := (List.prefix_append_right_inj text).mp begins
    cases more with
    | nil => rw [List.append_nil]
    | cons c more =>
        exfalso
        have inMark := solid c (List.mem_append_right text List.mem_cons_self)
        have inBlanks := blank c (within.subset List.mem_cons_self)
        rw [inMark] at inBlanks
        cases inBlanks

/-- Blanks behind a text that is not empty leave its front as it is. -/
theorem IsBare.append_of_blank (bare : IsBare text) (filled : text ≠ [])
    (blank : ∀ c ∈ blanks, isSpace c = true) : IsBare (text ++ blanks) := by
  constructor
  · rw [List.head?_append_of_ne_nil _ filled]
    exact bare.solid
  · have unmarked := bare.unmarked
    rw [Bool.eq_false_iff] at unmarked ⊢
    intro marked
    apply unmarked
    rw [opensWithMarker_iff] at marked ⊢
    have tilde : isSpace '~' = false := by decide
    have dot : isSpace '.' = false := by decide
    have solidTilde : ∀ c ∈ ['~'], isSpace c = false := by simp [tilde]
    have solidDots : ∀ c ∈ ['.', '.', '.'], isSpace c = false := by simp [dot]
    rcases marked with one | three
    · exact .inl (prefix_of_prefix_append_blank solidTilde blank one)
    · exact .inr (prefix_of_prefix_append_blank solidDots blank three)

/-- White space at the other end of a text makes no difference to what is dropped. -/
theorem dropMarkers_append_of_blank (blank : ∀ c ∈ blanks, isSpace c = true)
    (filled : dropMarkers text ≠ []) :
    dropMarkers (text ++ blanks) = dropMarkers text ++ blanks := by
  obtain ⟨before, elided, split⟩ := exists_append_dropMarkers text
  have bare := (isBare_dropMarkers text).append_of_blank filled blank
  calc dropMarkers (text ++ blanks)
      = dropMarkers (before ++ (dropMarkers text ++ blanks)) := by
        rw [← List.append_assoc, ← split]
    _ = dropMarkers text ++ blanks := by
        rw [dropMarkers_append elided, bare.dropMarkers_eq]

end Elision

section Template

variable {lead tail : List Char}

/-- A template is trimmed to what stands before its closing elision, marked or not. -/
theorem trim_dropElision (template : List Char) :
    trim (dropElision template) = trim (dropMarkers template.reverse).reverse := by
  unfold dropElision
  split
  · rfl
  · rename_i unmarked
    rw [dropMarkers_of_not_opens (Bool.eq_false_iff.mpr unmarked), ← trimEnd, trim_trimEnd]

/-- A template is made of white space, what is read of it, and an elision. -/
theorem exists_around_trim_dropElision (template : List Char) :
    ∃ lead tail, (∀ c ∈ lead, isSpace c = true) ∧ IsElision tail ∧
      template = lead ++ trim (dropElision template) ++ tail := by
  obtain ⟨markers, elided, split⟩ := exists_append_dropMarkers template.reverse
  obtain ⟨lead, blank, begun⟩ := exists_append_trimStart (dropMarkers template.reverse).reverse
  obtain ⟨blanks, behind, ended⟩ :=
    exists_trimEnd_append (trimStart (dropMarkers template.reverse).reverse)
  refine ⟨lead, blanks ++ markers.reverse, blank,
    (IsElision.of_blank behind).append elided.reverse, ?_⟩
  calc template
      = (dropMarkers template.reverse).reverse ++ markers.reverse := by
        rw [← List.reverse_append, ← split, List.reverse_reverse]
    _ = lead ++ trimStart (dropMarkers template.reverse).reverse ++ markers.reverse := by
        rw [← begun]
    _ = lead ++ (trim (dropElision template) ++ blanks) ++ markers.reverse := by
        rw [trim_dropElision, trim, ← ended]
    _ = lead ++ trim (dropElision template) ++ (blanks ++ markers.reverse) := by
        simp only [List.append_assoc]

/-- White space before a template and an elision behind it are cut off. -/
theorem trim_dropElision_around (blank : ∀ c ∈ lead, isSpace c = true) (elided : IsElision tail)
    (template : List Char) :
    trim (dropElision (lead ++ template ++ tail)) = trim (dropElision template) := by
  have reversed : ∀ c ∈ lead.reverse, isSpace c = true := by
    intro c member
    exact blank c (List.mem_reverse.mp member)
  rw [trim_dropElision, trim_dropElision, List.reverse_append, List.reverse_append,
    dropMarkers_append elided.reverse]
  by_cases hollow : dropMarkers template.reverse = []
  · have whole := (dropMarkers_eq_nil_iff.mp hollow).append (.of_blank reversed)
    rw [hollow, dropMarkers_eq_nil_iff.mpr whole]
  · rw [dropMarkers_append_of_blank reversed hollow, List.reverse_append, List.reverse_reverse,
      trim, trim, trimStart_append_of_blank blank]

/-- Nothing but blanks is left of a template just when it is an elision. -/
theorem trim_dropElision_eq_nil_iff (template : List Char) :
    trim (dropElision template) = [] ↔ IsElision template := by
  rw [trim_dropElision, trim_eq_nil_iff, ← IsElision.reverse_iff, ← dropMarkers_eq_nil_iff]
  have bare := isBare_dropMarkers template.reverse
  constructor
  · intro blank
    cases left : dropMarkers template.reverse with
    | nil => rfl
    | cons c rest =>
        rw [left] at bare blank
        have solid : isSpace c = false := bare.solid
        rw [blank c (List.mem_reverse.mpr List.mem_cons_self)] at solid
        cases solid
  · intro nothing
    simp [nothing]

end Template

namespace Idiom

/-- White space in front and an elision behind do not change the segments of an expression. -/
theorem segmentsOf_around {lead tail : String} (blank : isBlank lead = true)
    (elided : IsElision tail.toList) (rules : List SlotRule) (expression : String) :
    segmentsOf rules (lead ++ expression ++ tail) = segmentsOf rules expression := by
  have leading : ∀ c ∈ lead.toList, isSpace c = true := List.all_eq_true.mp blank
  rw [segmentsOf, segmentsOf, String.toList_append, String.toList_append,
    trim_dropElision_around leading elided]

/-- An expression has no segments just when it is an elision. -/
theorem segmentsOf_eq_nil_iff (rules : List SlotRule) (expression : String) :
    segmentsOf rules expression = [] ↔ IsElision expression.toList := by
  rw [segmentsOf, segments_eq_nil_iff, trim_dropElision_eq_nil_iff]

/-- The printed pattern is empty just when the expression is an elision. -/
theorem printed_eq_empty_iff (rules : List SlotRule) (expression : String) :
    (ofExpression rules expression).pattern.printed = "" ↔ IsElision expression.toList := by
  rw [Pattern.printed_eq_empty_iff (solid_pattern_ofExpression rules expression),
    ← segmentsOf_eq_nil_iff rules, ← List.isEmpty_iff, ← isEmpty, isEmpty_ofExpression,
    List.isEmpty_iff]

/-- **An elision behind an expression and white space before it do not count.** Under every table of
rules an expression is made ready in the same way, with the same pattern, slots and anchor, when
white space is put before it and any number of elision markers and white space behind it, whatever
it ends in itself. Its pattern is printed as nothing, and there is nothing to look for, exactly when
the expression is an elision itself. -/
theorem ofExpression_around {lead tail : String} (blank : isBlank lead = true)
    (elided : IsElision tail.toList) (rules : List SlotRule) (expression : String) :
    (ofExpression rules (lead ++ expression ++ tail)).pattern =
        (ofExpression rules expression).pattern ∧
      (ofExpression rules (lead ++ expression ++ tail)).slots =
        (ofExpression rules expression).slots ∧
      (ofExpression rules (lead ++ expression ++ tail)).anchored =
        (ofExpression rules expression).anchored ∧
      ((ofExpression rules expression).pattern.printed = "" ↔ IsElision expression.toList) ∧
      ((ofExpression rules expression).isEmpty = true ↔ IsElision expression.toList) := by
  have same : segmentsOf rules (lead ++ expression ++ tail) = segmentsOf rules expression :=
    segmentsOf_around blank elided rules expression
  refine ⟨?_, ?_, ?_, printed_eq_empty_iff rules expression, ?_⟩
  · simp only [ofExpression, same]
  · simp only [ofExpression, same]
  · simp only [ofExpression, same]
  · rw [isEmpty_ofExpression, List.isEmpty_iff, segmentsOf_eq_nil_iff]

/-- A sentence that is cut short by two dots keeps them, whatever stands behind it. -/
theorem ofExpression_around_two_dots :
    isBlank " \t" = true ∧ IsElision "...~ ......".toList ∧
      (ofExpression standardRules (" \t" ++ "as I said.." ++ "...~ ......")).pattern =
        [.literal "as I said..".toList] ∧
      ¬ IsElision "as I said..".toList := by
  have blank : isBlank " \t" = true := by decide
  have elided : IsElision "...~ ......".toList :=
    .dots (.tilde (.space (by decide) (.dots (.dots .nil))))
  obtain ⟨same, _, _, empty, _⟩ :=
    ofExpression_around blank elided standardRules "as I said.."
  have own : (ofExpression standardRules "as I said..").pattern =
      [.literal "as I said..".toList] := by cbv
  refine ⟨blank, elided, same.trans own, ?_⟩
  rw [← empty, own]
  decide

end Idiom

end Locution
