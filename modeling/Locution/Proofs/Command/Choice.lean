import Locution.Proofs.Command.Form

/-! # Choices that stand on a command line

What is chosen by a word of a command line stays chosen to its end: looking at what is pending and
meeting other arguments take no flag away (`Given.stable_flag`). A level of a command line hands on
what it has not met to the next one (`flag_of_readLevel`), so a word before two hyphens is met on
one of the two levels. A command line that forbids to ask thus gives arguments that do
(`noFallback_of_ofList`).
-/

namespace Locution.Command

/-- The words that may make choices: those before two hyphens. -/
def choiceWords (line : List String) : List String :=
  line.takeWhile (· != "--")

/-- Another word than two hyphens may make choices, as may the words behind it. -/
theorem choiceWords_cons {argument : String} (apart : argument ≠ "--") (line : List String) :
    choiceWords (argument :: line) = argument :: choiceWords line :=
  List.takeWhile_cons_of_pos (bne_iff_ne.mpr apart)

/-- What was chosen stays chosen. -/
theorem Given.stable_flag (flag : Flag) : Given.Stable fun first _ => flag ∈ first.flags where
  settle pending := by
    intro first _ firstNext _ chosen settled _
    cases pending with
    | nothing =>
        obtain rfl := Except.ok.inj settled
        exact chosen
    | waiting setting => cases settled
    | value setting text =>
        dsimp only [settle, addValue] at settled
        split at settled
        · cases settled
        · split at settled
          · cases settled
          · obtain rfl := Except.ok.inj settled
            exact chosen
    | operand kind text =>
        dsimp only [settle] at settled
        split at settled
        · cases settled
        · obtain rfl := Except.ok.inj settled
          exact chosen
  addFlag other := by
    intro first _ firstNext _ chosen added _
    dsimp only [addFlag] at added
    split at added
    · cases added
    · obtain rfl := Except.ok.inj added
      exact List.mem_append_left _ chosen
  addVerbose := .ok fun _ _ chosen => chosen

section Levels

variable {grammar : Grammar} {progress next : Progress} {flag : Flag}

/-- Meeting an argument takes back no choice. -/
theorem flag_of_meet {argument : String} (chosen : flag ∈ progress.given.flags)
    (met : progress.meet grammar argument = .ok next) : flag ∈ next.given.flags :=
  ((Given.stable_flag flag).keeps_meet grammar argument ⟨chosen, rfl, rfl⟩ met met).given

/-- Reading a command line to its end takes back no choice. -/
theorem flag_of_readOperands {line : List String} (chosen : flag ∈ progress.given.flags)
    (read : readOperands grammar progress line = .ok next) : flag ∈ next.given.flags := by
  induction line generalizing progress with
  | nil =>
      obtain rfl := Except.ok.inj read
      exact chosen
  | cons argument line ih =>
      obtain ⟨middle, met, rest⟩ := bind_eq_ok.mp read
      have keeps := (Given.stable_flag flag).keeps_meetOperand grammar true argument
      exact ih (keeps ⟨chosen, rfl, rfl⟩ met met).given rest

/-- The word for a choice on every level makes it. -/
theorem flag_of_meet_word {word : String} (common : (word, flag) ∈ commonFlags)
    (met : progress.meet grammar ("--" ++ word) = .ok next) : flag ∈ next.given.flags := by
  have asked : progress.settle (·.addFlag flag) = .ok next := by
    simp only [commonFlags, List.mem_cons, Prod.mk.injEq, List.not_mem_nil, or_false] at common
    rcases common with ⟨rfl, rfl⟩ | ⟨rfl, rfl⟩ | ⟨rfl, rfl⟩ | ⟨rfl, rfl⟩ <;> exact met
  obtain ⟨settled, _, given, added, rfl⟩ := Progress.settle_eq_ok.mp asked
  unfold Given.addFlag at added
  split at added
  · cases added
  · obtain rfl := Except.ok.inj added
    exact List.mem_append_right _ List.mem_cons_self

/-- A choice that is made, or whose word is to come, is made at the end of a level, or its word is
still to come. -/
theorem flag_of_readLevel {word : String} (common : (word, flag) ∈ commonFlags)
    {line rest : List String}
    (chosen : flag ∈ progress.given.flags ∨ "--" ++ word ∈ choiceWords line)
    (read : readLevel grammar progress line = .ok (next, rest)) :
    flag ∈ next.given.flags ∨ "--" ++ word ∈ choiceWords rest := by
  induction line generalizing progress with
  | nil =>
      obtain ⟨rfl, rfl⟩ := Prod.mk.inj (Except.ok.inj read)
      exact chosen
  | cons argument line ih =>
      unfold readLevel at read
      split at read
      · obtain ⟨rfl, rfl⟩ := Prod.mk.inj (Except.ok.inj read)
        exact chosen
      · split at read
        · rename_i hyphens
          obtain ⟨last, operands, ⟨⟩⟩ := map_eq_ok.mp read
          subst hyphens
          have made : flag ∈ progress.given.flags := chosen.resolve_right List.not_mem_nil
          exact .inl (flag_of_readOperands made operands)
        · rename_i apart
          obtain ⟨middle, met, read⟩ := bind_eq_ok.mp read
          refine ih ?_ read
          -- Before this argument the choice is made, or its word is this argument or a later one.
          rcases chosen with made | listed
          · exact .inl (flag_of_meet made met)
          · rw [choiceWords_cons apart] at listed
            rcases List.mem_cons.mp listed with rfl | later
            · exact .inl (flag_of_meet_word common met)
            · exact .inr later

/-- The level of a task is read to its end. -/
theorem rest_of_readLevel (inner : grammar.outer = false) {line rest : List String}
    (read : readLevel grammar progress line = .ok (next, rest)) : rest = [] := by
  induction line generalizing progress with
  | nil => exact (Prod.mk.inj (Except.ok.inj read)).2.symm
  | cons argument line ih =>
      rw [readLevel, inner, Bool.false_and, Bool.false_and, if_neg Bool.false_ne_true] at read
      split at read
      · obtain ⟨last, _, ⟨⟩⟩ := map_eq_ok.mp read
        rfl
      · obtain ⟨middle, _, rest⟩ := bind_eq_ok.mp read
        exact ih rest

end Levels

/-- The arguments of a task are read by a grammar of the inner level. -/
theorem outer_of_innerGrammar? {word : String} {grammar : Grammar}
    (found : innerGrammar? word = some grammar) : grammar.outer = false := by
  unfold innerGrammar? at found
  split at found <;> cases found <;> rfl

/-- **A command line that forbids to ask is read so.** -/
theorem noFallback_of_ofList {surroundings : Surroundings} {line : List String}
    {read : Arguments} (done : Arguments.ofList surroundings line = .ok read)
    (listed : "--no-fallback" ∈ choiceWords line) : read.noFallback = true := by
  obtain ⟨outer, word, rest, level, grammar, inner, last, found, innerLevel, outerGiven,
    innerGiven, task, outerSettled, innerSettled, named, rfl⟩ := exists_levels_of_ofList done
  have common : ("no-fallback", Flag.noFallback) ∈ commonFlags := List.mem_cons_self
  have stays : ∀ {given settled : Given} {pending : Pending}, .noFallback ∈ given.flags →
      given.settle pending = .ok settled → .noFallback ∈ settled.flags := by
    intro given settled pending made settles
    exact (Given.stable_flag .noFallback).settle pending
      made settles settles
  have chosen : .noFallback ∈ outerGiven.flags ∨ .noFallback ∈ innerGiven.flags := by
    rcases flag_of_readLevel common (.inr listed) level with made | later
    · exact .inl (stays made outerSettled)
    · right
      have noHyphens : word ≠ "--" := by
        rintro rfl
        cases found
      rw [choiceWords_cons noHyphens] at later
      rcases List.mem_cons.mp later with rfl | inside
      · cases found
      · rcases flag_of_readLevel common (.inr inside) innerLevel with made | left
        · exact stays made innerSettled
        · rw [rest_of_readLevel (outer_of_innerGrammar? found) innerLevel] at left
          exact absurd left List.not_mem_nil
  simpa only [arguments, Bool.or_eq_true, List.contains_iff_mem] using chosen

end Locution.Command
