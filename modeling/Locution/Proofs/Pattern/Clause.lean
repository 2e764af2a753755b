import Locution.Proofs.Pattern.Attempts

/-! # Where a run to the end of a clause stops

A run to the end of a clause goes as far as it can over characters that end no clause and separators
joined to a plain character, and has to take a plain character last. So it gives back the units at
its end that do not begin with one: white space, and separators joined to a plain character that
stands alone (`LeftOut`). Behind those the clause ends (`leftOut_of_clauseAttempts`). What was given
back is white space exactly when the clause ends behind white space
(`stopsAtClauseEnd_append_iff`).
-/

namespace Locution

open Text

/-- Whether a clause ends before a text: nothing follows, or a clause mark that is no separator
joined to a plain character. -/
inductive ClauseEnd : List Char → Prop where
  | nothing : ClauseEnd []
  | marked {c : Char} {rest : List Char} (mark : isClauseMark c = true)
      (apart : isSeparator c = true → rest.head?.any isPlain = false) : ClauseEnd (c :: rest)

/-- Whether a text is made of units that a run to the end of a clause does not end with: white
space, and separators joined to a plain character. -/
inductive LeftOut : List Char → Prop where
  | nil : LeftOut []
  | space {c : Char} {rest : List Char} (blank : isSpace c = true) (others : LeftOut rest) :
      LeftOut (c :: rest)
  | joined {c d : Char} {rest : List Char} (separator : isSeparator c = true)
      (plain : isPlain d = true) (others : LeftOut rest) : LeftOut (c :: d :: rest)

/-- Whether a text is white space up to the end of a clause. -/
def StopsAtClauseEnd (text : List Char) : Prop :=
  ∃ blank rest, text = blank ++ rest ∧ (∀ c ∈ blank, isSpace c = true) ∧ ClauseEnd rest

theorem isClauseMark_of_isSeparator {c : Char} (separator : isSeparator c = true) :
    isClauseMark c = true := by
  simp only [isSeparator, Bool.or_eq_true] at separator
  simp only [isClauseMark, Bool.or_eq_true]
  tauto

theorem isSpace_of_isClauseMark {c : Char} (mark : isClauseMark c = true) : isSpace c = false := by
  simp only [isClauseMark, Bool.or_eq_true, beq_iff_eq] at mark
  rcases mark with (((((rfl | rfl) | rfl) | rfl) | rfl) | rfl) <;> decide

/-- A character that ends no clause and is not plain is white space. -/
theorem isSpace_of_not_isPlain {c : Char} (unmarked : isClauseMark c = false)
    (rough : isPlain c = false) : isSpace c = true := by
  simpa only [isPlain, unmarked, Bool.not_false, Bool.true_and, Bool.not_eq_false'] using rough

/-- Behind the first length that a run to the end of a clause tries, only units that it does not
end with stand before the end of the clause. Where it tries none, they stand there from the
beginning. -/
theorem leftOut_of_clauseAttempts (text : List Char) :
    ∃ left rest, text.drop ((clauseAttempts text).head?.getD 0) = left ++ rest ∧
      LeftOut left ∧ ClauseEnd rest := by
  fun_induction clauseAttempts text with
  | case1 => exact ⟨[], [], rfl, .nil, .nothing⟩
  | case2 c plain => exact ⟨[], [], rfl, .nil, .nothing⟩
  | case3 c rough =>
      by_cases mark : isClauseMark c = true
      · exact ⟨[], [c], rfl, .nil, .marked mark fun _ => rfl⟩
      · have blank := isSpace_of_not_isPlain (Bool.eq_false_iff.mpr mark)
          (Bool.eq_false_iff.mpr rough)
        exact ⟨[c], [], rfl, .space blank .nil, .nothing⟩
  | case4 c d rest shorter shortest =>
      by_cases mark : isClauseMark c = true
      · have rough : isPlain c = false := by rw [isPlain, mark, Bool.not_true, Bool.false_and]
        simp only [mark, rough, ↓reduceIte, Bool.false_eq_true, List.nil_append, List.append_nil]
        by_cases joined : (isSeparator c && isPlain d) = true
        · obtain ⟨separator, plain⟩ := Bool.and_eq_true_iff.mp joined
          obtain ⟨left, last, split, leftOut, ends⟩ := shortest
          rw [if_pos joined]
          cases tried : clauseAttempts rest with
          | nil =>
              rw [tried] at split
              exact ⟨c :: d :: left, last, congrArg (fun text => c :: d :: text) split,
                .joined separator plain leftOut, ends⟩
          | cons length others =>
              rw [tried] at split
              exact ⟨left, last, split, leftOut, ends⟩
        · rw [if_neg joined]
          refine ⟨[], c :: d :: rest, rfl, .nil, .marked mark fun separator => ?_⟩
          rw [separator, Bool.true_and] at joined
          exact Bool.eq_false_iff.mpr joined
      · have unmarked := Bool.eq_false_iff.mpr mark
        have apart : isSeparator c = false :=
          Bool.eq_false_iff.mpr fun separator => mark (isClauseMark_of_isSeparator separator)
        simp only [unmarked, apart, Bool.false_and, Bool.false_eq_true, ↓reduceIte,
          List.nil_append]
        obtain ⟨left, last, split, leftOut, ends⟩ := shorter
        cases tried : clauseAttempts (d :: rest) with
        | nil =>
            rw [tried] at split
            by_cases plain : isPlain c = true
            · rw [if_pos plain]
              exact ⟨left, last, split, leftOut, ends⟩
            · rw [if_neg plain]
              have blank := isSpace_of_not_isPlain unmarked (Bool.eq_false_iff.mpr plain)
              exact ⟨c :: left, last, congrArg (c :: ·) split, .space blank leftOut, ends⟩
        | cons length others =>
            rw [tried] at split
            exact ⟨left, last, split, leftOut, ends⟩

/-- What is left out and the end of a clause do not begin with a plain character. -/
theorem LeftOut.isPlain_head? {left rest : List Char} (leftOut : LeftOut left)
    (ends : ClauseEnd rest) : (left ++ rest).head?.any isPlain = false := by
  cases leftOut with
  | nil =>
      cases ends with
      | nothing => rfl
      | marked mark _ =>
          simp only [List.nil_append, List.head?_cons, Option.any_some, isPlain, mark,
            Bool.not_true, Bool.false_and]
  | space blank _ =>
      simp only [List.cons_append, List.head?_cons, Option.any_some, isPlain, blank, Bool.not_true,
        Bool.and_false]
  | joined separator _ _ =>
      simp only [List.cons_append, List.head?_cons, Option.any_some, isPlain,
        isClauseMark_of_isSeparator separator, Bool.not_true, Bool.false_and]

/-- The end of a clause stands behind white space exactly when nothing else is left out before
it. -/
theorem stopsAtClauseEnd_append_iff {left rest : List Char} (leftOut : LeftOut left)
    (ends : ClauseEnd rest) :
    StopsAtClauseEnd (left ++ rest) ↔ ∀ c ∈ left, isSpace c = true := by
  refine ⟨?_, fun blank => ⟨left, rest, rfl, blank, ends⟩⟩
  rintro ⟨blank, last, split, spaces, lastEnds⟩
  induction leftOut generalizing blank with
  | nil => exact fun c member => absurd member List.not_mem_nil
  | @space c left space _ ih =>
      refine List.forall_mem_cons.mpr ⟨space, ?_⟩
      cases blank with
      | nil =>
          obtain rfl : c :: (left ++ rest) = last := split
          cases lastEnds with
          | marked mark _ =>
              rw [isSpace_of_isClauseMark mark] at space
              cases space
      | cons b blank =>
          exact ih blank (List.cons.inj split).2 fun c member =>
            spaces c (List.mem_cons_of_mem b member)
  | @joined c d left separator plain _ ih =>
      exfalso
      cases blank with
      | nil =>
          obtain rfl : c :: d :: (left ++ rest) = last := split
          cases lastEnds with
          | marked mark apart =>
              have rough := apart separator
              rw [List.head?_cons, Option.any_some, plain] at rough
              cases rough
      | cons b blank =>
          obtain ⟨rfl, _⟩ := List.cons.inj split
          have space := spaces c List.mem_cons_self
          rw [isSpace_of_isClauseMark (isClauseMark_of_isSeparator separator)] at space
          cases space

/-- Only a plain character that stands alone behind its separator is left out, so where no such
character stands, the end of the clause is behind white space. -/
theorem stopsAtClauseEnd_of_not_alone {left rest : List Char} (leftOut : LeftOut left)
    (ends : ClauseEnd rest)
    (company : ∀ earlier c d later, left ++ rest = earlier ++ c :: d :: later →
      isSeparator c = true → isPlain d = true → later.head?.any isPlain = true) :
    StopsAtClauseEnd (left ++ rest) := by
  rw [stopsAtClauseEnd_append_iff leftOut ends]
  induction leftOut with
  | nil => exact fun c member => absurd member List.not_mem_nil
  | @space c left space _ ih =>
      refine List.forall_mem_cons.mpr ⟨space, ih fun earlier b d later split => ?_⟩
      exact company (c :: earlier) b d later (congrArg (c :: ·) split)
  | @joined c d left separator plain others _ =>
      have alone := others.isPlain_head? ends
      rw [company [] c d (left ++ rest) rfl separator plain] at alone
      cases alone

end Locution
