import Mathlib.Data.List.Infix
import Locution.Text.Cut

/-! # Words between blanks

A text made of words with one blank between neighbours stands in another such text where its first
word ends a word of that text, its last word begins one, and the words between are the same. Its
words then occur one after the other once a text is put before the first of them and another one
after the last (`joined_infix_joined_iff`). The words themselves occur where both of these are
empty (`widened_nil_nil`). Words are read back from such a text as its maximal runs of characters
that count (`runsOf_joined`), and it has no blank at its ends or next to another one
(`not_blanks_infix_joined`).
-/

namespace Locution.Text

/-- Words with one blank between neighbours. -/
def joined : List (List Char) → List Char
  | [] => []
  | word :: words => word ++ words.flatMap (' ' :: ·)

/-- The parts of a text between blanks that have characters. -/
def wordsOf (text : List Char) : List (List Char) :=
  (text.splitOn ' ').filter fun word => !word.isEmpty

/-- The maximal runs of characters that count, in order: the parts that have characters, between
those that do not count. -/
def runsOf (counts : Char → Bool) (text : List Char) : List (List Char) :=
  (cut (!counts ·) text).filter (!·.isEmpty)

/-- Whether each of the words has characters, and none of these is a blank. -/
def AreWords (words : List (List Char)) : Prop :=
  ∀ word ∈ words, word ≠ [] ∧ ' ' ∉ word

/-- Words of which the last goes on with `tail`. -/
def extended (words : List (List Char)) (tail : List Char) : List (List Char) :=
  match words with
  | [] => []
  | [word] => [word ++ tail]
  | word :: next :: words => word :: extended (next :: words) tail

/-- Words of which the first begins with `head` and the last goes on with `tail`. -/
def widened (head : List Char) (words : List (List Char)) (tail : List Char) :
    List (List Char) :=
  (extended words tail).modifyHead (head ++ ·)

variable {word : List Char} {words others : List (List Char)}

theorem AreWords.head (apart : AreWords (word :: words)) : word ≠ [] ∧ ' ' ∉ word :=
  apart word List.mem_cons_self

theorem AreWords.tail (apart : AreWords (word :: words)) : AreWords words := by
  intro later member
  exact apart later (List.mem_cons_of_mem word member)

theorem joined_cons (word : List Char) (words : List (List Char)) :
    joined (word :: words) = word ++ words.flatMap (' ' :: ·) :=
  rfl

/-- What follows the first of joined words is nothing, or begins with a blank. -/
theorem flatMap_blank_cases (words : List (List Char)) :
    words = [] ∧ words.flatMap (' ' :: ·) = [] ∨
      words ≠ [] ∧ words.flatMap (' ' :: ·) = ' ' :: joined words := by
  cases words with
  | nil => exact .inl ⟨rfl, rfl⟩
  | cons word words => exact .inr ⟨List.cons_ne_nil word words, by simp [joined]⟩

/-- The first of several joined words is followed by one blank and the others. -/
theorem joined_cons_of_ne_nil (filled : words ≠ []) :
    joined (word :: words) = word ++ ' ' :: joined words := by
  rcases flatMap_blank_cases words with ⟨rfl, _⟩ | ⟨_, blank⟩
  · exact absurd rfl filled
  · rw [joined_cons, blank]

/-- Joined words are those with a blank between neighbours. -/
theorem joined_eq_intercalate (words : List (List Char)) :
    joined words = [' '].intercalate words := by
  induction words with
  | nil => rfl
  | cons word words ih =>
      cases words with
      | nil => simp [joined]
      | cons next words =>
          rw [List.intercalate_cons_cons, ← ih]
          simp [joined]

/-- The words of a text are read back from it. -/
theorem wordsOf_joined (apart : AreWords words) : wordsOf (joined words) = words := by
  cases words with
  | nil => rfl
  | cons word words =>
      have split : (joined (word :: words)).splitOn ' ' = word :: words := by
        rw [joined_eq_intercalate]
        apply List.splitOn_intercalate
        · intro part member
          exact (apart part member).2
        · exact List.cons_ne_nil word words
      rw [wordsOf, split, List.filter_eq_self]
      intro part member
      simp [(apart part member).1]

section Runs

variable {counts : Char → Bool}

/-- A run has characters, and all of them count. -/
theorem of_mem_runsOf {text run : List Char} (member : run ∈ runsOf counts text) :
    run ≠ [] ∧ ∀ c ∈ run, counts c = true := by
  obtain ⟨part, filled⟩ := List.mem_filter.mp member
  refine ⟨by simpa using filled, ?_⟩
  intro c inside
  by_contra other
  have sign : (!counts c) = true := by simpa using other
  exact sign_not_mem_of_mem_cut sign part inside

/-- Joined runs are the runs of the text that they make. -/
theorem runsOf_joined (runs : ∀ word ∈ words, word ≠ [] ∧ ∀ c ∈ word, counts c = true)
    (blank : counts ' ' = false) : runsOf counts (joined words) = words := by
  have none (word : List Char) (all : ∀ c ∈ word, counts c = true) :
      ∀ c ∈ word, (!counts c) = false := by
    intro c member
    rw [all c member, Bool.not_true]
  have ends : (!counts ' ') = true := by rw [blank, Bool.not_false]
  induction words with
  | nil => rfl
  | cons word words ih =>
      obtain ⟨⟨filled, all⟩, others⟩ := List.forall_mem_cons.mp runs
      rcases flatMap_blank_cases words with ⟨rfl, _⟩ | ⟨more, _⟩
      · simp [runsOf, joined, cut_of_forall_not (none word all), filled]
      · have later := ih others
        rw [joined_cons_of_ne_nil more, runsOf, cut_append_sign (none word all) ends,
          List.filter_cons_of_pos (by simpa using filled), ← runsOf, later]

end Runs

theorem extended_nil_right (words : List (List Char)) : extended words [] = words := by
  induction words with
  | nil => rfl
  | cons word words ih =>
      cases words with
      | nil => simp [extended]
      | cons next words => simp [extended, ih]

/-- Words with nothing put before the first and after the last are those words. -/
theorem widened_nil_nil (words : List (List Char)) : widened [] words [] = words := by
  rw [widened, extended_nil_right]
  cases words <;> simp

theorem extended_ne_nil (filled : words ≠ []) (tail : List Char) : extended words tail ≠ [] := by
  cases words with
  | nil => exact absurd rfl filled
  | cons word words => cases words <;> simp [extended]

/-- The last word goes on at the end of the joined words. -/
theorem joined_extended (filled : words ≠ []) (tail : List Char) :
    joined (extended words tail) = joined words ++ tail := by
  induction words with
  | nil => exact absurd rfl filled
  | cons word words ih =>
      cases words with
      | nil => simp [extended, joined]
      | cons next words =>
          have still : extended (next :: words) tail ≠ [] :=
            extended_ne_nil (List.cons_ne_nil next words) tail
          have later := ih (List.cons_ne_nil next words)
          rw [extended, joined_cons_of_ne_nil still, later,
            joined_cons_of_ne_nil (List.cons_ne_nil next words)]
          simp

/-- A text is put before the first word and another one after the last by putting them before and
after the joined words. -/
theorem joined_widened (filled : words ≠ []) (head tail : List Char) :
    joined (widened head words tail) = head ++ joined words ++ tail := by
  have before : ∀ words : List (List Char), words ≠ [] →
      joined (words.modifyHead (head ++ ·)) = head ++ joined words := by
    intro words filled
    cases words with
    | nil => exact absurd rfl filled
    | cons word words => simp [joined]
  rw [widened, before _ (extended_ne_nil filled tail), joined_extended filled, List.append_assoc]

/-- Words that stand side by side among others stand there joined, too. -/
theorem joined_infix_of_infix (found : words <:+: others) : joined words <:+: joined others := by
  obtain ⟨before, after, rfl⟩ := found
  cases words with
  | nil => exact List.nil_infix
  | cons word words =>
      cases before with
      | nil =>
          refine ⟨[], after.flatMap (' ' :: ·), ?_⟩
          simp [joined]
      | cons earlier before =>
          refine ⟨earlier ++ before.flatMap (' ' :: ·) ++ [' '], after.flatMap (' ' :: ·), ?_⟩
          simp [joined]

/-- A word at the beginning of joined words is the beginning of the first of them. -/
theorem exists_append_of_word {other text : List Char} (wordFree : ' ' ∉ word)
    (split : word ++ text = other ++ others.flatMap (' ' :: ·)) :
    ∃ more, other = word ++ more ∧ text = more ++ others.flatMap (' ' :: ·) := by
  rcases List.append_eq_append_iff.mp split with ⟨more, longer, rest⟩ | ⟨more, shorter, rest⟩
  · exact ⟨more, longer, rest⟩
  · cases more with
    | nil => exact ⟨[], by simpa using shorter.symm, by simpa using rest.symm⟩
    | cons c more =>
        -- The word cannot be the longer one: a blank would stand in it.
        exfalso
        rcases flatMap_blank_cases others with ⟨_, none⟩ | ⟨_, blank⟩
        · simp [none] at rest
        · obtain ⟨rfl, _⟩ := List.cons.inj (blank.symm.trans rest)
          apply wordFree
          simp [shorter]

/-- Joined words at the beginning of other joined words are the first of those, up to how the last
of them goes on. -/
theorem exists_extended_prefix (apart : AreWords words) (free : ∀ other ∈ others, ' ' ∉ other)
    (found : joined words <+: joined others) : ∃ tail, extended words tail <+: others := by
  induction words generalizing others with
  | nil => exact ⟨[], List.nil_prefix⟩
  | cons word words ih =>
      cases others with
      | nil =>
          have nothing := List.prefix_nil.mp found
          exact absurd (List.append_eq_nil_iff.mp nothing).1 apart.head.1
      | cons other others =>
          obtain ⟨after, split⟩ := found
          simp only [joined_cons, List.append_assoc] at split
          obtain ⟨more, rfl, rest⟩ := exists_append_of_word apart.head.2 split
          rcases flatMap_blank_cases words with ⟨rfl, _⟩ | ⟨filled, blank⟩
          · refine ⟨more, ?_⟩
            simp [extended]
          · cases more with
            | cons c more =>
                exfalso
                rw [blank] at rest
                obtain ⟨rfl, _⟩ := List.cons.inj rest
                exact free (word ++ ' ' :: more) List.mem_cons_self (by simp)
            | nil =>
                rcases flatMap_blank_cases others with ⟨_, none⟩ | ⟨_, otherBlank⟩
                · simp [blank, none] at rest
                · rw [blank, otherBlank] at rest
                  have later : joined words <+: joined others := ⟨after, (List.cons.inj rest).2⟩
                  obtain ⟨tail, there⟩ := ih apart.tail
                    (fun next member => free next (List.mem_cons_of_mem _ member)) later
                  refine ⟨tail, ?_⟩
                  cases words with
                  | nil => exact absurd rfl filled
                  | cons next words => simpa [extended] using there

/-- Joined words begin with a character that is no blank. -/
theorem exists_joined_eq_cons (apart : AreWords words) (filled : words ≠ []) :
    ∃ c rest, joined words = c :: rest ∧ c ≠ ' ' := by
  cases words with
  | nil => exact absurd rfl filled
  | cons word words =>
      obtain ⟨nonempty, wordFree⟩ := apart.head
      cases word with
      | nil => exact absurd rfl nonempty
      | cons c word =>
          refine ⟨c, word ++ words.flatMap (' ' :: ·), rfl, ?_⟩
          intro blank
          exact wordFree (by simp [blank])

/-- A character of joined words is one of a word or a blank. -/
theorem mem_joined {c : Char} (member : c ∈ joined words) :
    (∃ word ∈ words, c ∈ word) ∨ c = ' ' := by
  cases words with
  | nil => cases member
  | cons word words =>
      simp only [joined, List.mem_append, List.mem_flatMap, List.mem_cons] at member
      rcases member with first | ⟨later, among, blank | inside⟩
      · exact .inl ⟨word, List.mem_cons_self, first⟩
      · exact .inr blank
      · exact .inl ⟨later, List.mem_cons_of_mem word among, inside⟩

/-- No blank stands at the beginning of joined words. -/
theorem head?_joined_ne (apart : AreWords words) : (joined words).head? ≠ some ' ' := by
  by_cases filled : words = []
  · subst filled
    nofun
  · obtain ⟨c, rest, begins, solid⟩ := exists_joined_eq_cons apart filled
    rw [begins]
    intro same
    exact solid (Option.some.inj same)

theorem joined_ne_nil (apart : AreWords words) (filled : words ≠ []) : joined words ≠ [] := by
  obtain ⟨c, rest, begins, _⟩ := exists_joined_eq_cons apart filled
  rw [begins]
  exact List.cons_ne_nil c rest

/-- No blank stands at the end of joined words. -/
theorem getLast?_joined_ne (apart : AreWords words) : (joined words).getLast? ≠ some ' ' := by
  induction words with
  | nil => nofun
  | cons word words ih =>
      rcases flatMap_blank_cases words with ⟨rfl, _⟩ | ⟨more, _⟩
      · have alone : joined [word] = word := by simp [joined]
        rw [alone]
        intro last
        exact apart.head.2 (List.mem_of_getLast? last)
      · have later := joined_ne_nil apart.tail more
        have last : (joined (word :: words)).getLast? = (joined words).getLast? := by
          rw [joined_cons_of_ne_nil more, List.append_cons]
          exact List.getLast?_append_of_ne_nil _ later
        rw [last]
        exact ih apart.tail

/-- No two blanks stand next to each other in joined words. -/
theorem not_blanks_infix_joined (apart : AreWords words) : ¬ [' ', ' '] <:+: joined words := by
  induction words with
  | nil =>
      intro found
      cases List.infix_nil.mp found
  | cons word words ih =>
      have wordFree := apart.head.2
      rcases flatMap_blank_cases words with ⟨rfl, _⟩ | ⟨more, _⟩
      · have alone : joined [word] = word := by simp [joined]
        rw [alone]
        intro found
        exact wordFree (found.subset List.mem_cons_self)
      · have begins : (joined words).head? ≠ some ' ' := head?_joined_ne apart.tail
        rintro ⟨before, after, split⟩
        rw [joined_cons_of_ne_nil more, List.append_assoc] at split
        rcases List.append_eq_append_iff.mp split with ⟨gap, rfl, there⟩ | ⟨gap, rfl, there⟩
        · cases gap with
          | nil =>
              have later : joined words = ' ' :: after := (List.cons.inj there).2.symm
              exact begins (by rw [later, List.head?_cons])
          | cons c gap =>
              obtain ⟨rfl, _⟩ := List.cons.inj there
              exact wordFree (by simp)
        · cases gap with
          | nil =>
              have later : joined words = ' ' :: after := (List.cons.inj there).2
              exact begins (by rw [later, List.head?_cons])
          | cons c gap =>
              rw [List.cons_append, ← List.append_assoc] at there
              have later : joined words = gap ++ [' ', ' '] ++ after := (List.cons.inj there).2
              exact ih apart.tail ⟨gap, after, later.symm⟩
/-- Joined words that stand in other joined words are some of those, up to how the first of them
begins and how the last one goes on. -/
theorem exists_widened_infix (apart : AreWords words) (filled : words ≠ [])
    (free : ∀ other ∈ others, ' ' ∉ other) (found : joined words <:+: joined others) :
    ∃ head tail, widened head words tail <:+: others := by
  obtain ⟨c, rest, begins, solid⟩ := exists_joined_eq_cons apart filled
  induction others with
  | nil =>
      have nothing := List.infix_nil.mp found
      rw [begins] at nothing
      cases nothing
  | cons other others ih =>
      obtain ⟨before, after, split⟩ := found
      simp only [joined_cons, List.append_assoc] at split
      rcases List.append_eq_append_iff.mp split with ⟨more, rfl, there⟩ | ⟨more, rfl, there⟩
      · -- It begins in the first word, and `before` is what this word has in front of it.
        have moreFree : ∀ next ∈ more :: others, ' ' ∉ next := by
          intro next member
          rcases List.mem_cons.mp member with rfl | later
          · intro blank
            exact free (before ++ next) List.mem_cons_self (List.mem_append_right before blank)
          · exact free next (List.mem_cons_of_mem _ later)
        obtain ⟨tail, shown⟩ := exists_extended_prefix apart moreFree ⟨after, there⟩
        refine ⟨before, tail, List.IsPrefix.isInfix ?_⟩
        cases exact : extended words tail with
        | nil => exact absurd exact (extended_ne_nil filled tail)
        | cons next others =>
            rw [exact] at shown
            obtain ⟨rfl, later⟩ := List.cons_prefix_cons.mp shown
            rw [widened, exact, List.modifyHead_cons]
            exact List.cons_prefix_cons.mpr ⟨rfl, later⟩
      · -- It begins behind the first word, and not with the blank there.
        rcases flatMap_blank_cases others with ⟨_, none⟩ | ⟨_, blank⟩
        · rw [none, begins] at there
          simp at there
        · cases more with
          | nil =>
              rw [blank, begins] at there
              exact absurd (List.cons.inj there).1.symm solid
          | cons d more =>
              rw [blank] at there
              have later : joined words <:+: joined others :=
                ⟨more, after, by simpa using (List.cons.inj there).2.symm⟩
              obtain ⟨head, tail, shown⟩ := ih
                (fun next member => free next (List.mem_cons_of_mem _ member)) later
              exact ⟨head, tail, List.infix_cons shown⟩

/-- Joined words stand in other joined words exactly where they are some of those, up to how the
first of them begins and how the last one goes on. -/
theorem joined_infix_joined_iff (apart : AreWords words) (othersApart : AreWords others) :
    joined words <:+: joined others ↔ ∃ head tail, widened head words tail <:+: others := by
  by_cases filled : words = []
  · subst filled
    exact iff_of_true List.nil_infix ⟨[], [], List.nil_infix⟩
  · constructor
    · intro found
      exact exists_widened_infix apart filled (fun other member => (othersApart other member).2)
        found
    · rintro ⟨head, tail, shown⟩
      have inside := joined_infix_of_infix shown
      rw [joined_widened filled] at inside
      exact List.IsInfix.trans ⟨head, tail, rfl⟩ inside

end Locution.Text
