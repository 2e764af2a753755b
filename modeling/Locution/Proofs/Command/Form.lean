import Locution.Proofs.Command.Plain

/-! # Choices of form on a command line

A command line with more choices of form on it, wherever they stand, asks for the same plain
arguments (`plain_ofList`). The two readings go on in step: after an argument that both command
lines have they stand alike, and after a choice of form that only one has they still do
(`Progress.Alike.meet_form`). A choice of form may come when a value or an operand is still pending,
so one reading may have looked at it before the other (`Progress.Alike`); the next argument makes up
for that (`Progress.meet_of_settled`).
-/

namespace Locution.Command

namespace Progress

variable {progress next : Progress}

/-- It does not matter whether what was pending is looked at before. -/
theorem settle_of_settled (settled : progress.settle .ok = .ok next)
    (go : Given → Except UsageError Given) : next.settle go = progress.settle go := by
  obtain ⟨given, looked, _, ⟨⟩, rfl⟩ := settle_eq_ok.mp settled
  unfold settle
  rw [looked]
  rfl

/-- A word is met alike, whether what was pending is looked at before or not. -/
theorem meetWord_of_settled (settled : progress.settle .ok = .ok next) (grammar : Grammar)
    (word : String) (attached : Option String) :
    next.meetWord grammar word attached = progress.meetWord grammar word attached := by
  simp only [meetWord, meetPlain, meetSetting, settle_of_settled settled]

/-- A letter is met alike, whether what was pending is looked at before or not. -/
theorem meetLetter_of_settled (settled : progress.settle .ok = .ok next) (grammar : Grammar)
    (letter : Char) : next.meetLetter grammar letter = progress.meetLetter grammar letter := by
  simp only [meetLetter, settle_of_settled settled]

/-- An operand is met alike, whether what was pending is looked at before or not. -/
theorem meetOperand_of_settled (settled : progress.settle .ok = .ok next) (grammar : Grammar)
    (afterHyphens : Bool) (argument : String) :
    next.meetOperand grammar afterHyphens argument =
      progress.meetOperand grammar afterHyphens argument := by
  have met : next.met = progress.met := by
    obtain ⟨_, _, _, _, rfl⟩ := settle_eq_ok.mp settled
    rfl
  simp only [meetOperand, settle_of_settled settled, met]

/-- It does not matter for the next argument whether what was pending is looked at before. -/
theorem meet_of_settled (settled : progress.settle .ok = .ok next) (grammar : Grammar)
    (argument : String) : next.meet grammar argument = progress.meet grammar argument := by
  unfold meet
  split
  · exact meetWord_of_settled settled grammar _ _
  · rw [List.foldlM_cons, List.foldlM_cons, meetLetter_of_settled settled]
  · have operand := meetOperand_of_settled settled grammar false argument
    obtain ⟨given, looked, _, _, rfl⟩ := settle_eq_ok.mp settled
    cases pending : progress.pending with
    | waiting setting =>
        rw [pending] at looked
        cases looked
    | _ => exact operand

/-- Whether two readings stand at the same place, but for choices of form. -/
abbrev SamePlain : Progress → Progress → Prop :=
  Both fun first second => first.plain = second.plain

/-- Whether one reading stands where another one stands, but for choices of form, or would stand
there after looking at what is pending. -/
def Alike (first second : Progress) : Prop :=
  ∃ ahead, (ahead = first ∨ first.settle .ok = .ok ahead) ∧ ahead.SamePlain second

namespace Alike

variable {first second firstNext secondNext : Progress}

theorem of_samePlain (same : first.SamePlain second) : first.Alike second :=
  ⟨first, .inl rfl, same⟩

/-- Readings that stand alike still do after an argument of both. -/
theorem meet (alike : first.Alike second) {grammar : Grammar} {argument : String}
    (firstStep : first.meet grammar argument = .ok firstNext)
    (secondStep : second.meet grammar argument = .ok secondNext) :
    firstNext.Alike secondNext := by
  have keeps := Given.stable_plain.keeps_meet grammar argument
  obtain ⟨ahead, rfl | settled, same⟩ := alike
  · exact of_samePlain (keeps same firstStep secondStep)
  · rw [← meet_of_settled settled] at firstStep
    exact of_samePlain (keeps same firstStep secondStep)

/-- Readings that stand alike still do after an operand of both. -/
theorem meetOperand (alike : first.Alike second) {grammar : Grammar} {argument : String}
    (firstStep : first.meetOperand grammar true argument = .ok firstNext)
    (secondStep : second.meetOperand grammar true argument = .ok secondNext) :
    firstNext.Alike secondNext := by
  have keeps := Given.stable_plain.keeps_meetOperand grammar true argument
  obtain ⟨ahead, rfl | settled, same⟩ := alike
  · exact of_samePlain (keeps same firstStep secondStep)
  · rw [← meetOperand_of_settled settled] at firstStep
    exact of_samePlain (keeps same firstStep secondStep)

/-- When what is pending is looked at in the end, readings that stand alike were given the same, but
for choices of form. -/
theorem settle (alike : first.Alike second) {firstGiven secondGiven : Given}
    (firstLooked : first.given.settle first.pending = .ok firstGiven)
    (secondLooked : second.given.settle second.pending = .ok secondGiven) :
    firstGiven.plain = secondGiven.plain := by
  have keeps := Given.stable_plain.keeps_settle_ok
  have ends : ∀ {progress : Progress} {given : Given},
      progress.given.settle progress.pending = .ok given →
        progress.settle .ok = .ok ⟨given, .nothing, progress.met⟩ :=
    fun looked => settle_eq_ok.mpr ⟨_, looked, _, rfl, rfl⟩
  obtain ⟨ahead, rfl | settled, same⟩ := alike
  · exact (keeps same (ends firstLooked) (ends secondLooked)).given
  · have firstEnd := ends firstLooked
    rw [← settle_of_settled settled] at firstEnd
    exact (keeps same firstEnd (ends secondLooked)).given

/-- Of readings that stand alike, both are about to take a value or none is. -/
theorem awaitsValue (alike : first.Alike second) : first.awaitsValue = second.awaitsValue := by
  obtain ⟨ahead, rfl | settled, same⟩ := alike
  · rw [Progress.awaitsValue, Progress.awaitsValue, same.pending]
  · obtain ⟨given, looked, _, _, rfl⟩ := settle_eq_ok.mp settled
    rw [Progress.awaitsValue, Progress.awaitsValue, ← same.pending]
    cases pending : first.pending with
    | waiting setting =>
        rw [pending] at looked
        cases looked
    | _ => rfl

/-- A step that only looks at what was pending and chooses a form leaves a reading alike. -/
theorem settle_form (alike : first.Alike second) {go : Given → Except UsageError Given}
    (form : ∀ given next, go given = .ok next → next.plain = given.plain)
    (stepped : second.settle go = .ok secondNext) : first.Alike secondNext := by
  obtain ⟨secondGiven, looked, given, gone, rfl⟩ := settle_eq_ok.mp stepped
  obtain ⟨ahead, near, same⟩ := alike
  have looks := ahead.given.settle_plain ahead.pending
  rw [same.given, same.pending, Given.settle_plain, looked] at looks
  obtain ⟨aheadGiven, aheadLooked, samePlain⟩ := map_eq_ok.mp looks.symm
  rw [← same.pending] at aheadLooked
  have settled : ahead.settle .ok = .ok ⟨aheadGiven, .nothing, ahead.met⟩ :=
    settle_eq_ok.mpr ⟨_, aheadLooked, _, rfl, rfl⟩
  refine ⟨⟨aheadGiven, .nothing, ahead.met⟩, .inr ?_, ?_, rfl, same.met⟩
  · rcases near with rfl | before
    · exact settled
    · rw [← settle_of_settled before, settled]
  · exact samePlain.trans (form _ _ gone).symm

end Alike

end Progress

/-- Whether an argument makes choices of form and no others: a word for one, or letters for some. -/
def isFormWord (argument : String) : Bool :=
  ["--json", "--no-color", "--sequential", "--verbose", "--mismatches"].contains argument ||
    match argument.toList with
    | '-' :: letters => !letters.isEmpty && letters.all fun letter => letter == 's' || letter == 'v'
    | _ => false

/-- Whether a command line is another one with more choices of form on it. What stands after two
hyphens is no choice. -/
inductive Adorned : List String → List String → Prop where
  | nil : Adorned [] []
  | hyphens (line : List String) : Adorned ("--" :: line) ("--" :: line)
  | keep {line adorned : List String} (argument : String) : argument ≠ "--" →
    Adorned line adorned → Adorned (argument :: line) (argument :: adorned)
  | form {line adorned : List String} (word : String) : isFormWord word = true →
    Adorned line adorned → Adorned line (word :: adorned)

/-- A choice of form is one of five words, or a row of the letters `s` and `v`. -/
theorem isFormWord_cases {word : String} (form : isFormWord word = true) :
    (word = "--json" ∨ word = "--no-color" ∨ word = "--sequential" ∨ word = "--verbose" ∨
      word = "--mismatches") ∨
    ∃ letter letters, word.toList = '-' :: letter :: letters ∧
      (letter :: letters).all (fun letter => letter == 's' || letter == 'v') = true := by
  rcases Bool.or_eq_true_iff.mp form with long | short
  · left
    simpa only [List.contains_iff_mem, List.mem_cons, List.not_mem_nil, or_false] using long
  · right
    split at short
    · rename_i letters shape
      cases letters with
      | nil => cases short
      | cons letter letters => exact ⟨letter, letters, shape, short⟩
    · cases short

/-- A choice of form is no word for a task, no word for help and no pair of hyphens. -/
theorem meets_of_isFormWord {word : String} (form : isFormWord word = true) :
    innerGrammar? word = none ∧ (word == helpWord) = false ∧ word ≠ "--" := by
  have apart : ∀ other, isFormWord other = false → word ≠ other := by
    rintro other none rfl
    rw [form] at none
    cases none
  refine ⟨?_, beq_eq_false_iff_ne.mpr (apart helpWord (by decide)), apart "--" (by decide)⟩
  unfold innerGrammar?
  split
  · exact absurd rfl (apart "find" (by decide))
  · exact absurd rfl (apart "batch" (by decide))
  · exact absurd rfl (apart "scan" (by decide))
  · exact absurd rfl (apart "pattern" (by decide))
  · rfl

/-- Whether a grammar has no choices of its own that do more than to choose a form. -/
def Grammar.IsPlain (grammar : Grammar) : Prop :=
  ∀ entry ∈ grammar.flags, entry.2.isPlain = false

theorem isPlain_outerGrammar : outerGrammar.IsPlain :=
  fun _ member => absurd member List.not_mem_nil

/-- A task has no choices of its own but choices of form. -/
theorem isPlain_innerGrammar {word : String} {grammar : Grammar}
    (found : innerGrammar? word = some grammar) : grammar.IsPlain := by
  unfold innerGrammar? at found
  split at found <;> cases found <;> simp [Grammar.IsPlain, Flag.isPlain]

/-- A word for a choice that is met on a level of a plain grammar asks for a form, unless it forbids
to ask. -/
theorem Grammar.IsPlain.isPlain_lookup {grammar : Grammar} (plain : grammar.IsPlain) {word : String}
    {flag : Flag} (asked : word ≠ "no-fallback")
    (found : (commonFlags ++ grammar.flags).lookup word = some flag) : flag.isPlain = false := by
  obtain ⟨before, after, split, _⟩ := List.lookup_eq_some_iff.mp found
  have member : (word, flag) ∈ commonFlags ++ grammar.flags := by
    rw [split]
    exact List.mem_append_right _ List.mem_cons_self
  rcases List.mem_append.mp member with common | own
  · simp only [commonFlags, List.mem_cons, Prod.mk.injEq, List.not_mem_nil, or_false] at common
    rcases common with ⟨same, _⟩ | ⟨_, rfl⟩ | ⟨_, rfl⟩ | ⟨_, rfl⟩
    · exact absurd same asked
    all_goals rfl
  · exact plain _ own

namespace Progress.Alike

variable {first second secondNext : Progress} (alike : first.Alike second)

include alike

/-- A choice of form that only one reading has leaves them alike. -/
theorem settle_addFlag (flag : Flag) (form : flag.isPlain = false)
    (stepped : second.settle (·.addFlag flag) = .ok secondNext) : first.Alike secondNext := by
  refine alike.settle_form (fun given next added => ?_) stepped
  rw [Given.plain_addFlag added, List.filter_cons_of_neg (Bool.eq_false_iff.mp form),
    List.filter_nil, List.append_nil]

/-- A wish for more notes that only one reading has leaves them alike. -/
theorem settle_addVerbose (stepped : (second.settle fun given => .ok given.addVerbose) =
    .ok secondNext) : first.Alike secondNext := by
  refine alike.settle_form (fun given next added => ?_) stepped
  rw [← Except.ok.inj added]
  rfl

/-- A word that only one reading has leaves them alike, unless it names a value or forbids to
ask. -/
theorem meetWord_form {grammar : Grammar} (plain : grammar.IsPlain) (word : String)
    (asked : word ≠ "no-fallback") (valueless : settingNames.lookup word = none)
    (stepped : second.meetWord grammar word none = .ok secondNext) : first.Alike secondNext := by
  have stops : ∀ {failure : UsageError},
      second.settle (fun _ => .error failure) ≠ .ok secondNext := by
    intro failure stopped
    obtain ⟨_, _, _, gone, _⟩ := settle_eq_ok.mp stopped
    cases gone
  unfold meetWord at stepped
  rw [valueless] at stepped
  split at stepped
  · rename_i flag found
    exact alike.settle_addFlag flag (plain.isPlain_lookup asked found) stepped
  · dsimp only at stepped
    split at stepped
    · exact alike.settle_addVerbose stepped
    · split at stepped
      · exact absurd stepped stops
      · split at stepped
        · exact absurd stepped stops
        · cases stepped

/-- Letters that choose a form leave a reading alike. -/
theorem meetLetters_form {grammar : Grammar} {letters : List Char}
    (form : letters.all (fun letter => letter == 's' || letter == 'v') = true)
    (stepped : letters.foldlM (Progress.meetLetter grammar) second = .ok secondNext) :
    first.Alike secondNext := by
  induction letters generalizing second with
  | nil =>
      obtain rfl := Except.ok.inj stepped
      exact alike
  | cons letter letters ih =>
      obtain ⟨middle, met, rest⟩ := bind_eq_ok.mp stepped
      simp only [List.all_cons, Bool.and_eq_true, Bool.or_eq_true, beq_iff_eq] at form
      rcases form with ⟨rfl | rfl, others⟩
      · exact ih (alike.settle_addFlag .sequential rfl met) others rest
      · exact ih (alike.settle_addVerbose met) others rest

/-- **A choice of form leaves a reading alike.** -/
theorem meet_form {grammar : Grammar} (plain : grammar.IsPlain) {word : String}
    (form : isFormWord word = true) (stepped : second.meet grammar word = .ok secondNext) :
    first.Alike secondNext := by
  rcases isFormWord_cases form with long | ⟨letter, letters, shape, short⟩
  · rcases long with rfl | rfl | rfl | rfl | rfl
    · exact alike.meetWord_form plain "json" (by decide) rfl stepped
    · exact alike.meetWord_form plain "no-color" (by decide) rfl stepped
    · exact alike.meetWord_form plain "sequential" (by decide) rfl stepped
    · exact alike.meetWord_form plain "verbose" (by decide) rfl stepped
    · exact alike.meetWord_form plain "mismatches" (by decide) rfl stepped
  · have first := List.all_eq_true.mp short letter List.mem_cons_self
    simp only [Bool.or_eq_true, beq_iff_eq] at first
    unfold Progress.meet at stepped
    rw [shape] at stepped
    rcases first with rfl | rfl <;> exact alike.meetLetters_form short stepped

end Progress.Alike

section Levels

variable {grammar : Grammar} {first second firstEnd secondEnd : Progress}

/-- Readings that stand alike behind two hyphens stand alike at the end of the line. -/
theorem readOperands_alike (alike : first.Alike second) {line : List String}
    (firstRead : readOperands grammar first line = .ok firstEnd)
    (secondRead : readOperands grammar second line = .ok secondEnd) : firstEnd.Alike secondEnd := by
  induction line generalizing first second with
  | nil =>
      obtain rfl := Except.ok.inj firstRead
      obtain rfl := Except.ok.inj secondRead
      exact alike
  | cons argument line ih =>
      obtain ⟨firstNext, firstMet, firstRest⟩ := bind_eq_ok.mp firstRead
      obtain ⟨secondNext, secondMet, secondRest⟩ := bind_eq_ok.mp secondRead
      exact ih (alike.meetOperand firstMet secondMet) firstRest secondRest

/-- Reading a level of a command line and of the same with more form words ends alike, before the
same word. -/
theorem readLevel_alike (plain : grammar.IsPlain) {line adorned rest adornedRest : List String}
    (more : Adorned line adorned) (alike : first.Alike second)
    (firstRead : readLevel grammar first line = .ok (firstEnd, rest))
    (secondRead : readLevel grammar second adorned = .ok (secondEnd, adornedRest)) :
    firstEnd.Alike secondEnd ∧ rest.head? = adornedRest.head? ∧
      Adorned rest.tail adornedRest.tail := by
  -- The induction is on how the second line is made from the first. Only the second reading moves
  -- on at a choice of form, so the readings are carried along as alike, not as the same.
  induction more generalizing first second with
  | nil =>
      obtain ⟨rfl, rfl⟩ := Prod.mk.inj (Except.ok.inj firstRead)
      obtain ⟨rfl, rfl⟩ := Prod.mk.inj (Except.ok.inj secondRead)
      exact ⟨alike, rfl, .nil⟩
  | hyphens line =>
      have noTask : ((innerGrammar? "--").isSome || "--" == helpWord) = false := by decide
      simp only [readLevel, noTask, Bool.and_false, Bool.false_eq_true, ↓reduceIte]
        at firstRead secondRead
      obtain ⟨firstLast, firstOperands, ⟨⟩⟩ := map_eq_ok.mp firstRead
      obtain ⟨secondLast, secondOperands, ⟨⟩⟩ := map_eq_ok.mp secondRead
      exact ⟨readOperands_alike alike firstOperands secondOperands, rfl, .nil⟩
  | keep argument apart more ih =>
      unfold readLevel at firstRead secondRead
      rw [alike.awaitsValue] at firstRead
      rw [if_neg apart] at firstRead secondRead
      split at firstRead
      · rename_i stops
        rw [if_pos stops] at secondRead
        obtain ⟨rfl, rfl⟩ := Prod.mk.inj (Except.ok.inj firstRead)
        obtain ⟨rfl, rfl⟩ := Prod.mk.inj (Except.ok.inj secondRead)
        exact ⟨alike, rfl, more⟩
      · rename_i goes
        rw [if_neg goes] at secondRead
        obtain ⟨firstNext, firstMet, firstRest⟩ := bind_eq_ok.mp firstRead
        obtain ⟨secondNext, secondMet, secondRest⟩ := bind_eq_ok.mp secondRead
        exact ih (alike.meet firstMet secondMet) firstRest secondRest
  | form word form more ih =>
      obtain ⟨noTask, noHelp, apart⟩ := meets_of_isFormWord form
      unfold readLevel at secondRead
      rw [noTask, noHelp, Option.isSome_none, Bool.or_self, Bool.and_false,
        if_neg Bool.false_ne_true, if_neg apart] at secondRead
      obtain ⟨secondNext, met, secondRest⟩ := bind_eq_ok.mp secondRead
      exact ih (alike.meet_form plain form met) firstRead secondRest

end Levels

/-- What was met on the way to the arguments that a command line asks for. -/
theorem exists_levels_of_ofList {surroundings : Surroundings} {line : List String}
    {read : Arguments} (done : Arguments.ofList surroundings line = .ok read) :
    ∃ outer word rest, readLevel outerGrammar .start line = .ok (outer, word :: rest) ∧
      ∃ grammar inner last, innerGrammar? word = some grammar ∧
        readLevel grammar .start rest = .ok (inner, last) ∧
      ∃ outerGiven innerGiven task, outer.given.settle outer.pending = .ok outerGiven ∧
        inner.given.settle inner.pending = .ok innerGiven ∧ task? word innerGiven = some task ∧
        read = arguments surroundings outerGiven innerGiven task := by
  obtain ⟨⟨outer, rest⟩, level, done⟩ := bind_eq_ok.mp done
  cases rest with
  | nil =>
      obtain ⟨given, _, done⟩ := bind_eq_ok.mp done
      split at done <;> cases done
  | cons word rest =>
      dsimp only at done
      split at done
      · cases done
      · rename_i grammar found
        obtain ⟨⟨inner, last⟩, innerLevel, done⟩ := bind_eq_ok.mp done
        obtain ⟨innerGiven, innerSettled, done⟩ := bind_eq_ok.mp done
        split at done
        · cases done
        · rename_i task named
          obtain ⟨outerGiven, outerSettled, ⟨⟩⟩ := bind_eq_ok.mp done
          exact ⟨outer, word, rest, level, grammar, inner, last, found, innerLevel, outerGiven,
            innerGiven, task, outerSettled, innerSettled, named, rfl⟩

/-- **More form words leave the plain arguments as they are.** -/
theorem plain_ofList {surroundings : Surroundings} {line adorned : List String}
    (more : Adorned line adorned) {first second : Arguments}
    (firstRead : Arguments.ofList surroundings line = .ok first)
    (secondRead : Arguments.ofList surroundings adorned = .ok second) :
    first.plain = second.plain := by
  obtain ⟨outer, word, rest, level, grammar, inner, last, found, innerLevel, outerGiven,
    innerGiven, task, outerSettled, innerSettled, named, rfl⟩ := exists_levels_of_ofList firstRead
  obtain ⟨outer', word', rest', level', grammar', inner', last', found', innerLevel', outerGiven',
    innerGiven', task', outerSettled', innerSettled', named', rfl⟩ :=
      exists_levels_of_ofList secondRead
  obtain ⟨outerAlike, sameHead, moreTail⟩ :=
    readLevel_alike isPlain_outerGrammar more (.of_samePlain ⟨rfl, rfl, rfl⟩) level level'
  obtain rfl : word = word' := Option.some.inj sameHead
  obtain rfl : grammar = grammar' := Option.some.inj (found.symm.trans found')
  obtain ⟨innerAlike, _, _⟩ := readLevel_alike (isPlain_innerGrammar found) moreTail
    (.of_samePlain ⟨rfl, rfl, rfl⟩) innerLevel innerLevel'
  have sameOuter := outerAlike.settle outerSettled outerSettled'
  have sameInner := innerAlike.settle innerSettled innerSettled'
  have sameTask : task.plain = task'.plain := by
    have both := task?_plain word innerGiven
    rw [sameInner, task?_plain, named, named'] at both
    exact (Option.some.inj both).symm
  rw [arguments_plain, arguments_plain, sameOuter, sameInner, sameTask]

end Locution.Command
