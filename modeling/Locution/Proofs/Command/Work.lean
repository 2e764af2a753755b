import Locution.Command.Run
import Locution.Proofs.Batch.Tally
import Locution.Proofs.Chat.Client
import Locution.Proofs.Command.Plain
import Locution.Proofs.Corpus.Coverage

/-! # The work of a command

A task has the engine settle requests, which its input may forbid to ask the source about
(`Workload`). What comes of the requests (`taskFindings`) decides the exit code
(`exit_eq_zero_iff`). With a steady engine it depends on the workload only, not on the turns of
helpers or on earlier work (`Engine.Steady.all_matched_taskFindings`).
-/

namespace Locution

/-- With a steady engine a request is found by itself when the engine's answer matches. -/
theorem Engine.Steady.matched_find_iff [SearchSize] {σ : Type} {engine : Engine σ}
    (steady : engine.Steady)
    (fallback : Bool) (request : Request) (desk : Desk σ) (memory : σ) :
    (∃ finding, (engine.find fallback request desk).1 = .ok finding ∧ finding.matched = true) ↔
      (engine.answer fallback request memory).matched = true := by
  have blank := request.isSome_fault?
  rw [engine.find_fst, Engine.result, steady.answer_eq fallback request desk.memory memory]
  cases fault : request.fault? with
  | some error =>
      rw [fault, Option.isSome_some] at blank
      rw [Engine.answer, if_pos blank.symm]
      refine iff_of_false ?_ Bool.false_ne_true
      rintro ⟨finding, turnedDown, _⟩
      cases turnedDown
  | none => simp only [Except.ok.injEq, exists_eq_left']

namespace Command

variable {σ : Type}

/-- The client of a run, if there is leave to ask and a key. -/
def Arguments.client? (arguments : Arguments) : Option Chat.Client :=
  if arguments.noFallback then none else (Chat.Client.ofSettings arguments.settings).toOption

/-- The arbiter of a run asks its client, within the limit that the user set. -/
theorem arbiter_engineFor (arguments : Arguments) (endpoint : Chat.Endpoint σ) :
    (engineFor arguments endpoint).1.arbiter =
      arguments.client?.map fun client => ⟨client.source endpoint, arguments.limit⟩ := by
  unfold engineFor Arguments.client?
  split
  · rfl
  · cases Chat.Client.ofSettings arguments.settings <;> rfl

/-- A steady endpoint makes a steady engine. -/
theorem steady_engineFor (arguments : Arguments) {endpoint : Chat.Endpoint σ}
    (steady : endpoint.Steady) : (engineFor arguments endpoint).1.Steady := by
  intro arbiter there
  rw [arbiter_engineFor] at there
  obtain ⟨client, _, rfl⟩ := Option.map_eq_some_iff.mp there
  exact steady.arbiter client arguments.limit

/-- What a task has the engine settle, and whether its input leaves it to the engine to ask. -/
structure Workload where
  requests : List Request
  leave : Bool

/-- The workload of a task, unless its input cannot be read. -/
def workload (place : Place σ) : Task → Except RunError Workload
  | .find expression sentence => .ok ⟨[⟨expression, sentence⟩], true⟩
  | .batch path =>
    (readBatch place path).map fun input => ⟨input.requests, input.fallback.getD true⟩
  | .scan path _ =>
    (readCorpus place path).map fun corpus => ⟨corpus.samples.map (·.request), true⟩
  | .pattern _ => .ok ⟨[], false⟩

section Findings

variable [SearchSize] (place : Place σ) (arguments : Arguments) (engine : Engine (Chat.Line σ))
  (turns : List Nat) (desk : Desk (Chat.Line σ))

/-- What comes of the requests of a task. -/
def taskFindings : Except RunError (List Finding) :=
  match arguments.task with
  | .find expression sentence =>
    match (engine.find engine.arbiter.isSome ⟨expression, sentence⟩ desk).1 with
    | .error error => .error (.request error)
    | .ok finding => .ok [finding]
  | .batch path => (readBatch place path).map fun input =>
    (engine.runBatch (engine.arbiter.isSome && input.fallback.getD true)
      (.ofTurns arguments.sequential input.requests.length turns) input.requests desk).1.findings
  | .scan path _ => (readCorpus place path).map fun corpus =>
    (engine.scan engine.arbiter.isSome
      (.ofTurns arguments.sequential corpus.samples.length turns) corpus desk).1.map (·.finding)
  | .pattern _ => .ok []

/-- A task succeeds when everything it looked for was found. -/
theorem success_runTask :
    (runTask place arguments engine turns desk).1.map (·.success) =
      (taskFindings place arguments engine turns desk).map fun findings =>
        findings.all (·.matched) := by
  unfold runTask taskFindings
  cases arguments.task with
  | find expression sentence =>
      unfold runFind
      dsimp only
      rcases engine.find engine.arbiter.isSome ⟨expression, sentence⟩ desk with
        ⟨error | finding, after⟩
      · rfl
      · exact congrArg Except.ok (Bool.and_true _).symm
  | batch path =>
      unfold runBatch
      dsimp only
      cases readBatch place path with
      | error error => rfl
      | ok input => exact congrArg Except.ok (Tally.allMatched_ofFindings _)
  | scan path mismatchesOnly =>
      unfold runScan
      dsimp only
      cases readCorpus place path with
      | error error => rfl
      | ok corpus => exact congrArg Except.ok (List.all_map).symm
  | pattern expression => rfl

/-- With a steady engine everything that a task looks for is found when the engine's answers to the
requests of its workload match, whatever the source remembers, the turns and the desk. -/
theorem taskFindings_all_matched_iff (steady : engine.Steady) (memory : Chat.Line σ) :
    ((taskFindings place arguments engine turns desk).map fun findings =>
        findings.all (·.matched)) = .ok true ↔
      ∃ load, workload place arguments.task = .ok load ∧ ∀ request ∈ load.requests,
        (engine.answer (engine.arbiter.isSome && load.leave) request memory).matched = true := by
  unfold taskFindings workload
  cases arguments.task with
  | find expression sentence =>
      have found := steady.matched_find_iff engine.arbiter.isSome ⟨expression, sentence⟩ desk memory
      simp only [Except.ok.injEq, exists_eq_left', List.mem_singleton, forall_eq, Bool.and_true,
        ← found]
      generalize (engine.find engine.arbiter.isSome ⟨expression, sentence⟩ desk).1 = result
      cases result with
      | error error => simp only [Except.map, reduceCtorEq, false_and, exists_false]
      | ok finding =>
          simp only [Except.map, Except.ok.injEq, exists_eq_left', List.all_cons, List.all_nil,
            Bool.and_true]
  | batch path =>
      dsimp only
      cases readBatch place path with
      | error error => simp only [Except.map, reduceCtorEq, false_and, exists_false]
      | ok input =>
          simp only [Except.map, Except.ok.injEq, exists_eq_left', List.all_map, List.all_eq_true,
            steady.findings_runBatch _ _ _ _ memory, Function.comp_apply]
  | scan path mismatchesOnly =>
      dsimp only
      cases readCorpus place path with
      | error error => simp only [Except.map, reduceCtorEq, false_and, exists_false]
      | ok corpus =>
          simp only [Except.map, Except.ok.injEq, exists_eq_left', List.map_map, List.all_map,
            List.all_eq_true, steady.scan_eq_map _ _ _ _ memory, Function.comp_apply,
            Sample.record, List.forall_mem_map, Bool.and_true]
  | pattern expression =>
      simp only [Except.map, Except.ok.injEq, exists_eq_left', List.all_nil, List.not_mem_nil,
        false_imp_iff, implies_true]

end Findings

/-- What a run comes to when its task came to this. -/
def Outcome.ofDone (arguments : Arguments) (done : Except RunError Product × Desk (Chat.Line σ)) :
    Outcome σ :=
  let shown := (leastLevel arguments.verbosity).select done.2.journal
  match done.1 with
  | .ok product => ⟨if product.success then 0 else 1, product.print, shown, none, done.2.memory⟩
  | .error error => ⟨1, fun _ => "", shown, some error.message, done.2.memory⟩

section Run

variable [SearchSize] (place : Place σ) (arguments : Arguments) (turns : List Nat) (memory : σ)

/-- The desk at which the task of a run is begun. -/
def deskFor : Desk (Chat.Line σ) :=
  (Desk.ofMemory ⟨memory, []⟩).note (engineFor arguments place.endpoint).2

/-- A run is what becomes of its task, done at its desk by its engine. -/
theorem runWith_eq_ofDone : runWith place arguments turns memory =
    .ofDone arguments (runTask place arguments (engineFor arguments place.endpoint).1 turns
      (deskFor place arguments memory)) :=
  rfl

/-- The findings of a run. -/
def findingsOf : Except RunError (List Finding) :=
  taskFindings place arguments (engineFor arguments place.endpoint).1 turns
    (deskFor place arguments memory)

/-- **The exit code tells whether everything was found.** -/
theorem exit_runWith :
    (runWith place arguments turns memory).exit =
      match findingsOf place arguments turns memory with
      | .ok findings => if findings.all (·.matched) then 0 else 1
      | .error _ => 1 := by
  have success := success_runTask place arguments (engineFor arguments place.endpoint).1 turns
    (deskFor place arguments memory)
  rw [runWith_eq_ofDone, Outcome.ofDone, findingsOf]
  generalize runTask place arguments (engineFor arguments place.endpoint).1 turns
    (deskFor place arguments memory) = done at success
  generalize taskFindings place arguments (engineFor arguments place.endpoint).1 turns
    (deskFor place arguments memory) = found at success
  obtain ⟨failure | product, after⟩ := done
  · cases found with
    | error error => rfl
    | ok findings => cases success
  · cases found with
    | error error => cases success
    | ok findings =>
        have same : product.success = findings.all (·.matched) := Except.ok.inj success
        dsimp only
        rw [same]

theorem exit_le_one : (runWith place arguments turns memory).exit ≤ 1 := by
  rw [exit_runWith]
  split
  · split <;> omega
  · exact Nat.le_refl 1

end Run

end Command

end Locution
