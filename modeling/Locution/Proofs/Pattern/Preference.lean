import Locution.Proofs.Pattern.Clause
import Locution.Proofs.Pattern.Realization

/-! # What a piece prefers

Words and clauses are tried from the longest text down, runs from the shortest up, and plain text
and pronouns can be taken in one way only (`IsPronoun.unique`). The attempts of a piece stand in
this order (`Piece.pairwise_attempts`). So what the search takes for a piece comes before everything
else that the rest of the pattern could follow (`Pattern.prefers_of_preferred?`).
-/

namespace Locution

open Text

/-- Texts that begin one and the same text agree up to case as far as both of them go. -/
theorem foldEq_of_mem_zip {first second taken other rest later : List Char}
    (firstTaken : SameFolded first taken) (secondTaken : SameFolded second other)
    (same : taken ++ rest = other ++ later) :
    ∀ pair ∈ first.zip second, foldEq pair.1 pair.2 = true := by
  induction firstTaken generalizing second other with
  | nil =>
      intro pair member
      cases member
  | @cons a c first taken agree _ ih =>
      cases secondTaken with
      | nil =>
          intro pair member
          cases member
      | @cons b d second other agreeOther others =>
          obtain ⟨rfl, behind⟩ := List.cons.inj same
          rw [List.zip_cons_cons, List.forall_mem_cons]
          refine ⟨?_, ih others behind⟩
          have foldA : fold a = fold c := beq_iff_eq.mp agree
          have foldB : fold b = fold c := beq_iff_eq.mp agreeOther
          exact beq_iff_eq.mpr (foldA.trans foldB.symm)

/-- Any two of the pronouns differ in a character that both of them have. -/
theorem pronouns_differ : ∀ first ∈ pronouns, ∀ second ∈ pronouns, first ≠ second →
    (first.zip second).any (fun pair => !foldEq pair.1 pair.2) = true := by
  decide +kernel

/-- At one place of a text stands at most one pronoun. -/
theorem IsPronoun.unique {taken other rest later : List Char} (pronoun : IsPronoun taken)
    (otherPronoun : IsPronoun other) (same : taken ++ rest = other ++ later) : taken = other := by
  obtain ⟨first, listed, agree⟩ := isPronoun_iff.mp pronoun
  obtain ⟨second, otherListed, otherAgree⟩ := isPronoun_iff.mp otherPronoun
  by_cases equal : first = second
  · subst second
    exact List.append_inj_left same (agree.length_eq.symm.trans otherAgree.length_eq)
  · obtain ⟨pair, member, apart⟩ :=
      List.any_eq_true.mp (pronouns_differ first listed second otherListed equal)
    rw [foldEq_of_mem_zip agree otherAgree same pair member] at apart
    cases apart

/-- A run to the end of a clause prefers the longer ends. -/
theorem pairwise_clauseAttempts (text : List Char) :
    (clauseAttempts text).Pairwise fun length other => other < length := by
  fun_induction clauseAttempts text with
  | case1 => exact .nil
  | case2 => exact List.pairwise_singleton _ _
  | case3 => exact .nil
  | case4 c d rest shorter shortest =>
      have longer (count : Nat) {lengths : List Nat}
          (ordered : lengths.Pairwise fun length other => other < length) :
          (lengths.map (· + count)).Pairwise fun length other => other < length :=
        ordered.map _ fun _ _ less => Nat.add_lt_add_right less count
      by_cases mark : isClauseMark c = true
      · have rough : isPlain c = false := by rw [isPlain, mark, Bool.not_true, Bool.false_and]
        simp only [mark, rough, ↓reduceIte, Bool.false_eq_true, List.nil_append, List.append_nil]
        split
        · exact longer 2 shortest
        · exact .nil
      · have apart : isSeparator c = false :=
          Bool.eq_false_iff.mpr fun separator => mark (isClauseMark_of_isSeparator separator)
        simp only [mark, apart, Bool.false_and, Bool.false_eq_true, ↓reduceIte, List.nil_append]
        refine List.pairwise_append.mpr ⟨longer 1 shorter, ?_, ?_⟩
        · split
          · exact List.pairwise_singleton _ _
          · exact .nil
        · intro length tried other last
          obtain ⟨count, countTried, rfl⟩ := List.mem_map.mp tried
          obtain ⟨taken, _, _, rfl, clause⟩ := mem_clauseAttempts_iff.mp countTried
          split at last
          · obtain rfl := List.mem_singleton.mp last
            have filled : 0 < taken.length := by cases clause <;> exact Nat.succ_pos _
            omega
          · cases last

namespace Piece

/-- Whether a piece prefers one length to another. -/
def Prefers : Piece → Nat → Nat → Prop
  | .literal _, _, _ | .possessive, _, _ => False
  | .word, length, other | .clause, length, other => other < length
  | .run, length, other => length < other

/-- The attempts of a piece stand in the order of its preference. -/
theorem pairwise_attempts (piece : Piece) (text : List Char) :
    (piece.attempts text).Pairwise fun length other =>
      length = other ∨ piece.Prefers length other := by
  cases piece with
  | literal lead =>
      rw [attempts]
      split
      · exact List.pairwise_singleton _ _
      · exact .nil
  | possessive =>
      refine List.pairwise_of_forall_mem_list fun length tried other otherTried => .inl ?_
      obtain ⟨taken, rest, split, rfl, pronoun⟩ := mem_attempts_iff.mp tried
      obtain ⟨taken', rest', split', rfl, pronoun'⟩ := mem_attempts_iff.mp otherTried
      exact congrArg List.length (pronoun.unique pronoun' (split.symm.trans split'))
  | word =>
      rw [attempts, List.pairwise_reverse]
      exact List.Pairwise.imp (fun less => .inr less) List.pairwise_lt_range'
  | run => exact List.Pairwise.imp (fun less => .inr less) List.pairwise_lt_range'
  | clause => exact (pairwise_clauseAttempts text).imp fun less => .inr less

end Piece

namespace Pattern

variable {piece : Piece} {pattern : Pattern} {text : List Char} {length : Nat} {lengths : Lengths}

/-- Behind the first piece the search goes on with what it prefers there. -/
theorem preferred?_of_cons (found : preferred? (piece :: pattern) text = some (length :: lengths)) :
    preferred? pattern (text.drop length) = some lengths := by
  obtain ⟨_, _, taken⟩ := List.exists_of_findSome?_eq_some found
  obtain ⟨_, onward, made⟩ := Option.map_eq_some_iff.mp taken
  obtain ⟨rfl, rfl⟩ := List.cons.inj made
  exact onward

/-- What the search takes for the first piece comes before everything else that the other pieces
could follow. -/
theorem prefers_of_preferred? {other : Nat}
    (found : preferred? (piece :: pattern) text = some (length :: lengths))
    (tried : other ∈ piece.attempts text)
    (followed : (preferred? pattern (text.drop other)).isSome = true) :
    length = other ∨ piece.Prefers length other := by
  obtain ⟨failed, taken, left, attempted, succeeded, missed⟩ := List.findSome?_eq_some_iff.mp found
  obtain ⟨rest, _, made⟩ := Option.map_eq_some_iff.mp succeeded
  obtain ⟨rfl, _⟩ := List.cons.inj made
  have ordered := piece.pairwise_attempts text
  rw [attempted] at tried ordered
  rcases List.mem_append.mp tried with earlier | onward
  · have nothing := missed other earlier
    rw [takeThen, Option.map_eq_none_iff] at nothing
    rw [nothing] at followed
    cases followed
  · rcases List.mem_cons.mp onward with rfl | behind
    · exact .inl rfl
    · exact List.rel_of_pairwise_cons (List.pairwise_append.mp ordered).2.1 behind

end Pattern

end Locution
