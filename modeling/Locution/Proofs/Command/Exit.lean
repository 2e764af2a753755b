import Mathlib
import Locution.Pattern.Estimate
import Locution.Proofs.Command.Form
import Locution.Proofs.Command.Work

/-! # The exit code

A run exits with zero exactly when its task succeeds (`Succeeds`): the input can be read and every
item that it holds matches, each settled by itself. Neither choices of form on the command line nor
the turns of helpers change the exit code (`exit_code_tells_success`).
-/

namespace Locution.Command

variable {σ : Type}

/-- Whether the task of some arguments succeeds, when its items are settled at the desk `alone`. -/
def Succeeds [SearchSize] (place : Place σ) (arguments : Arguments)
    (alone : Desk (Chat.Line σ)) : Prop :=
  let engine := (engineFor arguments place.endpoint).1
  let mayAsk := engine.arbiter.isSome
  match arguments.task with
  | .find expression sentence =>
    Text.isBlank expression = false ∧ Text.isBlank sentence = false ∧
      ∃ finding, (engine.find mayAsk ⟨expression, sentence⟩ alone).1 = .ok finding ∧
        finding.matched = true
  | .batch path =>
    ∃ text input, readInput place path = .ok text ∧ BatchInput.ofText text.toList = .ok input ∧
      ∀ request ∈ input.requests,
        (engine.settleItem (mayAsk && input.fallback.getD true) request alone).1.matched = true
  | .scan path _ =>
    ∃ text corpus, place.read path = .ok text ∧ Corpus.ofText text.toList = .ok corpus ∧
      ∀ entry ∈ corpus, ∀ sentence ∈ entry.examples,
        (engine.settleItem mayAsk ⟨entry.expression, sentence.text⟩ alone).1.matched = true
  | .pattern _ => True

/-- A batch is read when its file is, and its text is a batch. -/
theorem readBatch_eq_ok {place : Place σ} {path : String} {input : BatchInput} :
    readBatch place path = .ok input ↔
      ∃ text, readInput place path = .ok text ∧ BatchInput.ofText text.toList = .ok input := by
  unfold readBatch
  rw [bind_eq_ok]
  refine exists_congr fun text => and_congr_right fun _ => ?_
  cases BatchInput.ofText text.toList with
  | error error => simp only [reduceCtorEq]
  | ok other => simp only [Except.ok.injEq]

/-- A corpus is read when its file is, and its text is a corpus. -/
theorem readCorpus_eq_ok {place : Place σ} {path : String} {corpus : Corpus} :
    readCorpus place path = .ok corpus ↔
      ∃ text, place.read path = .ok text ∧ Corpus.ofText text.toList = .ok corpus := by
  unfold readCorpus
  cases place.read path with
  | error failure => simp only [reduceCtorEq, false_and, exists_false]
  | ok text =>
      simp only [Except.ok.injEq, exists_eq_left']
      cases Corpus.ofText text.toList with
      | error fault => simp only [reduceCtorEq]
      | ok other => simp only [Except.ok.injEq]

/-- The requests of a corpus are those of the examples of its entries. -/
theorem forall_samples_iff {corpus : Corpus} {holds : Request → Prop} :
    (∀ request ∈ corpus.samples.map (·.request), holds request) ↔
      ∀ entry ∈ corpus, ∀ sentence ∈ entry.examples, holds ⟨entry.expression, sentence.text⟩ := by
  constructor
  · intro every entry listed sentence used
    obtain ⟨index, there⟩ := List.mem_iff_getElem?.mp listed
    obtain ⟨within, found⟩ := List.mem_iff_getElem?.mp used
    have member : ⟨index, within, ⟨entry.expression, sentence.text⟩⟩ ∈ corpus.samples :=
      Corpus.mem_samples_iff.mpr ⟨entry, sentence, there, found, rfl⟩
    exact every _ (List.mem_map_of_mem member)
  · intro every request member
    obtain ⟨sample, listed, rfl⟩ := List.mem_map.mp member
    obtain ⟨entry, sentence, there, found, asked⟩ := Corpus.mem_samples_iff.mp listed
    rw [asked]
    exact every entry (List.mem_of_getElem? there) sentence (List.mem_of_getElem? found)

/-- A task succeeds when the engine's answers to the requests of its workload match. -/
theorem succeeds_iff [SearchSize] (place : Place σ) (arguments : Arguments)
    (steady : place.endpoint.Steady) (alone : Desk (Chat.Line σ)) :
    Succeeds place arguments alone ↔
      ∃ load, workload place arguments.task = .ok load ∧ ∀ request ∈ load.requests,
        ((engineFor arguments place.endpoint).1.answer
          ((engineFor arguments place.endpoint).1.arbiter.isSome && load.leave) request
          alone.memory).matched = true := by
  have steadyEngine := steady_engineFor arguments steady
  unfold Succeeds workload
  dsimp only
  generalize (engineFor arguments place.endpoint).1 = engine at steadyEngine ⊢
  cases arguments.task with
  | find expression sentence =>
      have found := steadyEngine.matched_find_iff engine.arbiter.isSome ⟨expression, sentence⟩ alone
        alone.memory
      simp only [Except.ok.injEq, exists_eq_left', List.mem_singleton, forall_eq, Bool.and_true,
        ← found]
      refine ⟨fun whole => whole.2.2, fun ⟨finding, settled, hit⟩ => ?_⟩
      have filled : Request.isBlank ⟨expression, sentence⟩ = false := by
        refine Bool.eq_false_iff.mpr fun blank => ?_
        obtain ⟨error, turnedDown⟩ := (engine.exists_error_find_iff _ _ alone).mpr blank
        cases turnedDown.symm.trans settled
      obtain ⟨expressionFilled, sentenceFilled⟩ := Bool.or_eq_false_iff.mp filled
      exact ⟨expressionFilled, sentenceFilled, finding, settled, hit⟩
  | batch path =>
      simp only [map_eq_ok, readBatch_eq_ok, Engine.settleItem_fst]
      constructor
      · rintro ⟨text, input, readable, formed, every⟩
        exact ⟨_, ⟨input, ⟨text, readable, formed⟩, rfl⟩, every⟩
      · rintro ⟨_, ⟨input, ⟨text, readable, formed⟩, rfl⟩, every⟩
        exact ⟨text, input, readable, formed, every⟩
  | scan path mismatchesOnly =>
      simp only [map_eq_ok, readCorpus_eq_ok, Engine.settleItem_fst]
      constructor
      · rintro ⟨text, corpus, readable, formed, every⟩
        refine ⟨_, ⟨corpus, ⟨text, readable, formed⟩, rfl⟩, ?_⟩
        rw [Bool.and_true]
        exact forall_samples_iff.mpr every
      · rintro ⟨_, ⟨corpus, ⟨text, readable, formed⟩, rfl⟩, every⟩
        rw [Bool.and_true] at every
        exact ⟨text, corpus, readable, formed, forall_samples_iff.mp every⟩
  | pattern expression =>
      simp only [Except.ok.injEq, exists_eq_left', List.not_mem_nil, false_imp_iff, implies_true]

/-- Arguments that differ in choices of form only have a run succeed for both or for neither. -/
theorem succeeds_congr [SearchSize] (place : Place σ) {first second : Arguments}
    (same : first.plain = second.plain) (alone : Desk (Chat.Line σ)) :
    Succeeds place first alone ↔ Succeeds place second alone := by
  have form : ∀ arguments : Arguments,
      Succeeds place arguments alone ↔ Succeeds place arguments.plain alone := by
    rintro ⟨task, _⟩
    cases task <;> exact Iff.rfl
  rw [form first, form second, same]

/-- A run ends with zero just when everything that it was to find is found. -/
theorem exit_eq_zero_iff [SearchSize] (place : Place σ) (arguments : Arguments) (turns : List Nat)
    (memory : σ)
    (steady : place.endpoint.Steady) (alone : Desk (Chat.Line σ)) :
    (runWith place arguments turns memory).exit = 0 ↔ Succeeds place arguments alone := by
  rw [succeeds_iff place arguments steady alone,
    ← taskFindings_all_matched_iff place arguments _ turns (deskFor place arguments memory)
      (steady_engineFor arguments steady), exit_runWith, findingsOf]
  cases taskFindings place arguments (engineFor arguments place.endpoint).1 turns
      (deskFor place arguments memory) with
  | error error => simp only [Except.map, reduceCtorEq, Nat.one_ne_zero]
  | ok findings =>
      simp only [Except.map, Except.ok.injEq]
      split
      · rename_i every
        exact iff_of_true rfl every
      · rename_i some
        exact iff_of_false Nat.one_ne_zero some

/-- A run ends with one just when it does not succeed, so it never ends otherwise. -/
theorem exit_eq_one_iff [SearchSize] (place : Place σ) (arguments : Arguments) (turns : List Nat)
    (memory : σ)
    (steady : place.endpoint.Steady) (alone : Desk (Chat.Line σ)) :
    (runWith place arguments turns memory).exit = 1 ↔ ¬Succeeds place arguments alone := by
  have bound := exit_le_one place arguments turns memory
  rw [← exit_eq_zero_iff place arguments turns memory steady alone]
  omega

/-- **The exit code tells whether the task succeeds.** With a steady endpoint, a run exits with zero
exactly when its task succeeds, and with one otherwise. The exit code is that of every run of the
same command line with more choices of form on it, whatever turns helpers take. -/
theorem exit_code_tells_success [SearchSize] (place : Place σ) (steady : place.endpoint.Steady)
    {surroundings : Surroundings} {line : List String} {arguments : Arguments}
    (read : Arguments.ofList surroundings line = .ok arguments) (turns : List Nat) (memory : σ)
    (alone : Desk (Chat.Line σ)) :
    let exit := (runWith place arguments turns memory).exit
    (exit = 0 ↔ Succeeds place arguments alone) ∧
      (exit = 1 ↔ ¬Succeeds place arguments alone) ∧
      ∀ (adorned : List String) (other : Arguments), Adorned line adorned →
        Arguments.ofList surroundings adorned = .ok other →
          ∀ (otherTurns : List Nat) (otherMemory : σ),
            (runWith place other otherTurns otherMemory).exit = exit := by
  intro exit
  have zero := exit_eq_zero_iff place arguments turns memory steady alone
  have one := exit_eq_one_iff place arguments turns memory steady alone
  refine ⟨zero, one, fun adorned other more adornedRead otherTurns otherMemory => ?_⟩
  have same := succeeds_congr place (plain_ofList more read adornedRead) alone
  by_cases success : Succeeds place arguments alone
  · have found := exit_eq_zero_iff place other otherTurns otherMemory steady alone
    exact (found.mpr (same.mp success)).trans (zero.mpr success).symm
  · have missed := exit_eq_one_iff place other otherTurns otherMemory steady alone
    exact (missed.mpr (mt same.mpr success)).trans (one.mpr success).symm

/-- A run that finds its expression exits with zero, also when choices of form stand between the
operands. -/
theorem exit_code_tells_success_on_board :
    let endpoint : Chat.Endpoint Nat := fun _ count => ((.unreachable, ⟨0⟩), count + 1)
    let place : Place Nat := ⟨fun _ => .error .noSuchFile, .error .noSuchFile, endpoint, false⟩
    let line := ["find", "on board", "Is everyone on board?", "--api-key", "k"]
    let adorned := ["find", "-v", "on board", "--json", "Is everyone on board?", "--api-key", "k"]
    let around : Surroundings := ⟨none, none, none⟩
    let arguments : Arguments :=
      ⟨.find "on board" "Is everyone on board?", false, false, false, false, 0, 30, "gpt-4o-mini",
        "https://api.openai.com/v1", some "k"⟩
    let other : Arguments := { arguments with json := true, verbosity := 1 }
    place.endpoint.Steady ∧ Arguments.ofList around line = .ok arguments ∧
      Arguments.ofList around adorned = .ok other ∧ Adorned line adorned ∧
      (runWith place arguments [] 0).exit = 0 ∧ (runWith place other [] 0).exit = 0 := by
  intro endpoint place line adorned around arguments other
  have steady : place.endpoint.Steady := ⟨fun _ => (.unreachable, ⟨0⟩), fun _ _ => rfl⟩
  have read : Arguments.ofList around line = .ok arguments := rfl
  have adornedRead : Arguments.ofList around adorned = .ok other := rfl
  have more : Adorned line adorned :=
    .keep _ (by decide) (.form _ (by decide) (.keep _ (by decide) (.form _ (by decide)
      (.keep _ (by decide) (.keep _ (by decide) (.keep _ (by decide) .nil))))))
  have found : (Idiom.ofStandard "on board").find "Is everyone on board?".toList =
      .ok (some ⟨12, 20, "on board".toList, []⟩) := by cbv
  have success : Succeeds place arguments (Desk.ofMemory ⟨0, []⟩) := by
    refine ⟨by decide, by decide, ?_⟩
    apply ((steady_engineFor arguments steady).matched_find_iff _ _ _ ⟨0, []⟩).mpr
    rw [Engine.answer, if_neg (by decide), Request.hit?, found]
    rfl
  obtain ⟨zero, _, same⟩ :=
    exit_code_tells_success place steady read [] 0 (Desk.ofMemory ⟨0, []⟩)
  exact ⟨steady, read, adornedRead, more, zero.mpr success,
    (same adorned other more adornedRead [] 0).trans (zero.mpr success)⟩

end Locution.Command
