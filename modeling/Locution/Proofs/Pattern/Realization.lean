import Locution.Proofs.Pattern.Attempts

/-! # What realizes a pattern

Apart from any order of attempts, a piece says which texts it may take (`Piece.Takes`), and a
pattern is realized by one such text for each of its pieces. The search is sound and complete for
this meaning: the match that it prefers at a place is made of texts that the pieces may take
(`Pattern.realized_of_preferred?`), and there is a match wherever the pattern is realized
(`Pattern.isSome_preferred?`).
-/

namespace Locution

open Text

/-- Whether a text is a run to the end of a clause: characters that end no clause and separators
joined to a plain character, and then a last plain character. -/
inductive ClauseText : List Char → Prop where
  | last {c : Char} (plain : isPlain c = true) : ClauseText [c]
  | free {c : Char} {rest : List Char} (unmarked : isClauseMark c = false)
      (others : ClauseText rest) : ClauseText (c :: rest)
  | joined {c d : Char} {rest : List Char} (separator : isSeparator c = true)
      (plain : isPlain d = true) (others : ClauseText rest) : ClauseText (c :: d :: rest)

/-- Whether a text is one of the eight possessive pronouns, up to case. -/
def IsPronoun (text : List Char) : Prop :=
  SameFolded "my".toList text ∨ SameFolded "your".toList text ∨ SameFolded "his".toList text ∨
    SameFolded "her".toList text ∨ SameFolded "their".toList text ∨ SameFolded "its".toList text ∨
    SameFolded "our".toList text ∨ SameFolded "one's".toList text

/-- The pronouns that are tried are the eight. -/
theorem isPronoun_iff {text : List Char} :
    IsPronoun text ↔ ∃ pronoun ∈ pronouns, SameFolded pronoun text := by
  simp only [IsPronoun, pronouns, List.map_cons, List.map_nil, List.mem_cons, List.not_mem_nil,
    or_false, exists_eq_or_imp, exists_eq_left]

/-- Whether a text is not empty and holds only characters of words. -/
def IsWord (text : List Char) : Prop :=
  text ≠ [] ∧ ∀ c ∈ text, isWordChar c = true

/-- Whether a text is not empty and holds no line feed. -/
def IsLinePart (text : List Char) : Prop :=
  text ≠ [] ∧ '\n' ∉ text

/-- A run of a text that satisfies a test can be cut off after each of its characters. -/
theorem mem_range'_takeWhile_iff {test : Char → Bool} {text : List Char} {length : Nat} :
    length ∈ List.range' 1 (text.takeWhile test).length ↔
      ∃ taken rest, text = taken ++ rest ∧ taken.length = length ∧ taken ≠ [] ∧
        ∀ c ∈ taken, test c = true := by
  rw [List.mem_range'_1]
  constructor
  · rintro ⟨positive, below⟩
    have whole : length ≤ (text.takeWhile test).length := by omega
    have filled : ((text.takeWhile test).take length).length = length :=
      List.length_take_of_le whole
    refine ⟨(text.takeWhile test).take length,
      (text.takeWhile test).drop length ++ text.dropWhile test, ?_, filled, ?_, ?_⟩
    · rw [← List.append_assoc, List.take_append_drop, List.takeWhile_append_dropWhile]
    · intro empty
      rw [empty, List.length_nil] at filled
      omega
    · intro c member
      exact List.all_eq_true.mp List.all_takeWhile c (List.mem_of_mem_take member)
  · rintro ⟨taken, rest, rfl, rfl, filled, tested⟩
    have positive : 0 < taken.length := List.length_pos_of_ne_nil filled
    rw [List.takeWhile_append_of_pos tested, List.length_append]
    omega

/-- The attempts at a run to the end of a clause are the lengths of such runs. -/
theorem mem_clauseAttempts_iff {text : List Char} {length : Nat} :
    length ∈ clauseAttempts text ↔
      ∃ taken rest, text = taken ++ rest ∧ taken.length = length ∧ ClauseText taken := by
  constructor
  · intro member
    fun_induction clauseAttempts text generalizing length with
    | case1 => cases member
    | case2 c plain =>
        obtain rfl := List.mem_singleton.mp member
        exact ⟨[c], [], rfl, rfl, .last plain⟩
    | case3 => cases member
    | case4 c d rest shorter shortest =>
        simp only [List.mem_append] at member
        rcases member with free | joined | last
        · split at free
          · cases free
          · rename_i unmarked
            obtain ⟨count, tried, rfl⟩ := List.mem_map.mp free
            obtain ⟨taken, left, split, rfl, clause⟩ := shorter tried
            exact ⟨c :: taken, left, by rw [split, List.cons_append], rfl,
              .free (Bool.eq_false_iff.mpr unmarked) clause⟩
        · split at joined
          · rename_i both
            obtain ⟨separator, plain⟩ := Bool.and_eq_true_iff.mp both
            obtain ⟨count, tried, rfl⟩ := List.mem_map.mp joined
            obtain ⟨taken, left, rfl, rfl, clause⟩ := shortest tried
            exact ⟨c :: d :: taken, left, rfl, rfl, .joined separator plain clause⟩
          · cases joined
        · split at last
          · rename_i plain
            obtain rfl := List.mem_singleton.mp last
            exact ⟨[c], d :: rest, rfl, rfl, .last plain⟩
          · cases last
  · rintro ⟨taken, rest, rfl, rfl, clause⟩
    induction clause with
    | last plain =>
        simp only [List.singleton_append, clauseAttempts_cons, plain, ↓reduceIte, List.mem_append,
          List.length_singleton, List.mem_singleton, or_true]
    | free unmarked _ ih =>
        simp only [List.cons_append, clauseAttempts_cons, unmarked, Bool.false_eq_true, ↓reduceIte,
          List.mem_append, List.length_cons, List.mem_map, Nat.add_right_cancel_iff,
          exists_eq_right, ih, true_or]
    | joined separator plain _ ih =>
        simp only [List.cons_append, clauseAttempts_cons, separator, List.head?_cons,
          Option.any_some, plain, Bool.and_self, ↓reduceIte, List.drop_succ_cons, List.drop_zero,
          List.mem_append, List.length_cons, List.mem_map]
        exact .inr (.inl ⟨_, ih, rfl⟩)

namespace Piece

/-- Whether a text is one that a piece may take. -/
def Takes : Piece → List Char → Prop
  | .literal text, taken => SameFolded text taken
  | .word, taken => IsWord taken
  | .possessive, taken => IsPronoun taken
  | .run, taken => IsLinePart taken
  | .clause, taken => ClauseText taken

/-- The attempts of a piece are the lengths of the texts that it may take at the beginning of a
text. -/
theorem mem_attempts_iff {piece : Piece} {text : List Char} {length : Nat} :
    length ∈ piece.attempts text ↔
      ∃ taken rest, text = taken ++ rest ∧ taken.length = length ∧ piece.Takes taken := by
  have beginning : ∀ lead : List Char, (dropFolded lead text).isSome = true ↔
      ∃ taken rest, text = taken ++ rest ∧ SameFolded lead taken := by
    intro lead
    simp only [Option.isSome_iff_exists, dropFolded_eq_some_iff]
    constructor
    · rintro ⟨rest, taken, same, split⟩
      exact ⟨taken, rest, split, same⟩
    · rintro ⟨taken, rest, split, same⟩
      exact ⟨rest, taken, same, split⟩
  cases piece with
  | literal lead =>
      simp only [attempts, List.mem_ite_nil_right, beginning, List.mem_singleton, Takes]
      constructor
      · rintro ⟨⟨taken, rest, split, same⟩, rfl⟩
        exact ⟨taken, rest, split, same.length_eq.symm, same⟩
      · rintro ⟨taken, rest, split, rfl, same⟩
        exact ⟨⟨taken, rest, split, same⟩, same.length_eq.symm⟩
  | possessive =>
      simp only [attempts, List.mem_filterMap, Option.ite_none_right_eq_some, beginning,
        Option.some.injEq, Takes, isPronoun_iff]
      constructor
      · rintro ⟨pronoun, member, ⟨taken, rest, split, same⟩, rfl⟩
        exact ⟨taken, rest, split, same.length_eq.symm, pronoun, member, same⟩
      · rintro ⟨taken, rest, split, rfl, pronoun, member, same⟩
        exact ⟨pronoun, member, ⟨taken, rest, split, same⟩, same.length_eq⟩
  | word => simp only [attempts, List.mem_reverse, mem_range'_takeWhile_iff, Takes, IsWord]
  | run =>
      have lines : ∀ taken : List Char, (∀ c ∈ taken, (c != '\n') = true) ↔ '\n' ∉ taken := by
        intro taken
        simp only [bne_iff_ne]
        exact ⟨fun apart member => apart _ member rfl, fun absent c member same =>
          absent (same ▸ member)⟩
      simp only [attempts, mem_range'_takeWhile_iff, lines, Takes, IsLinePart]
  | clause => exact mem_clauseAttempts_iff

/-- A solid piece takes no empty text. -/
theorem Takes.ne_nil {piece : Piece} {taken : List Char} (solid : piece.Solid)
    (takes : piece.Takes taken) : taken ≠ [] := by
  rintro rfl
  have tried : 0 ∈ piece.attempts [] := mem_attempts_iff.mpr ⟨[], [], rfl, rfl, takes⟩
  rw [attempts_nil solid] at tried
  cases tried

end Piece

namespace Pattern

/-- Whether a pattern is realized by the given texts, one for each of its pieces. -/
def RealizedBy (pattern : Pattern) (texts : List (List Char)) : Prop :=
  List.Forall₂ Piece.Takes pattern texts

/-- What realizes a solid pattern with pieces has characters. -/
theorem RealizedBy.flatten_ne_nil {pattern : Pattern} {texts : List (List Char)}
    (realized : pattern.RealizedBy texts) (solid : pattern.Solid) (filled : pattern ≠ []) :
    texts.flatten ≠ [] := by
  cases realized with
  | nil => exact absurd rfl filled
  | cons takes _ =>
      intro empty
      rw [List.flatten_cons] at empty
      exact takes.ne_nil (solid _ List.mem_cons_self) (List.append_eq_nil_iff.mp empty).1

/-- The preferred match is made of texts that the pieces may take. -/
theorem realized_of_preferred? {pattern : Pattern} {text : List Char} {lengths : Lengths}
    (found : pattern.preferred? text = some lengths) :
    ∃ texts rest, text = texts.flatten ++ rest ∧ lengths = texts.map List.length ∧
      pattern.RealizedBy texts := by
  induction pattern generalizing text lengths with
  | nil =>
      obtain rfl := Option.some.inj found
      exact ⟨[], text, rfl, rfl, .nil⟩
  | cons piece pattern ih =>
      obtain ⟨length, tried, followed⟩ := List.exists_of_findSome?_eq_some found
      obtain ⟨others, matched, rfl⟩ := Option.map_eq_some_iff.mp followed
      obtain ⟨taken, left, rfl, rfl, takes⟩ := Piece.mem_attempts_iff.mp tried
      rw [List.drop_left] at matched
      obtain ⟨texts, rest, rfl, rfl, realized⟩ := ih matched
      exact ⟨taken :: texts, rest, by rw [List.flatten_cons, List.append_assoc], rfl,
        .cons takes realized⟩

/-- There is a match wherever texts stand that realize the pattern. -/
theorem isSome_preferred? {pattern : Pattern} {texts : List (List Char)}
    (realized : pattern.RealizedBy texts) (rest : List Char) :
    (pattern.preferred? (texts.flatten ++ rest)).isSome = true := by
  induction realized with
  | nil => rfl
  | @cons piece taken pattern texts takes _ ih =>
      obtain ⟨others, matched⟩ := Option.isSome_iff_exists.mp ih
      have tried : taken.length ∈ piece.attempts (taken ++ (texts.flatten ++ rest)) :=
        Piece.mem_attempts_iff.mpr ⟨taken, _, rfl, rfl, takes⟩
      rw [List.flatten_cons, List.append_assoc, preferred?, List.findSome?_isSome_iff]
      refine ⟨taken.length, tried, ?_⟩
      rw [takeThen, List.drop_left, matched, Option.map_some, Option.isSome_some]

end Pattern

end Locution
