import Mathlib
import Locution.Pattern.Estimate
import Locution.Proofs.Batch.Gain
import Locution.Proofs.Batch.Quiet
import Locution.Proofs.Command.Choice
import Locution.Proofs.Command.Work

/-! # What leaves the machine

A switch forbids a run to ask (`Forbids`): the user, a missing or blank key, the task, or a batch.
Such a run posts nothing and comes to the same whatever the endpoint would answer
(`runWith_of_forbids`): its requests are settled without leave, and settling them so heeds no source
(`unheard_workTask`). Where nothing forbids it, the desk that a task leaves is that of a batch of
its requests (`exists_runBatch`), so the run asks once about each request that is missed
(`runWith_asks`). Both together are `asks_only_when_allowed`.
-/

namespace Locution

theorem Desk.note_nil {σ : Type} (desk : Desk σ) : desk.note [] = desk := by
  rw [note, List.append_nil]

/-- There is a client just when there is a key. -/
theorem Chat.Client.isSome_ofSettings (settings : Chat.Settings) :
    (Chat.Client.ofSettings settings).toOption.isSome = settings.hasKey := by
  unfold ofSettings Chat.Settings.hasKey
  cases settings.usableKey? <;> rfl

/-- There is no key when it was not given or is blank. -/
theorem Chat.Settings.hasKey_eq_false_iff {settings : Chat.Settings} :
    settings.hasKey = false ↔ ∀ key ∈ settings.key, Text.isBlank key = true := by
  unfold hasKey usableKey?
  rw [Option.isSome_eq_false_iff, Option.isNone_iff_eq_none, Option.filter_eq_none_iff]
  simp only [Option.mem_def, Bool.not_eq_true', Bool.not_eq_false]

/-- Whether the source is to be asked about a request where nothing forbids it: no part of it is
blank, and its pattern is missed. -/
def Request.isMissed [SearchSize] (request : Request) : Bool :=
  !request.isBlank && request.hit?.isNone

/-- An engine that may ask does so for the requests whose pattern is missed. -/
theorem Engine.asks_eq_isMissed [SearchSize] {σ : Type} {engine : Engine σ} {fallback : Bool}
    (allowed : (fallback && engine.arbiter.isSome) = true) :
    engine.asks fallback = Request.isMissed := by
  funext request
  rw [asks, Bool.and_assoc, allowed, Bool.and_true, Request.isMissed]

/-- The postings of the requests that call for the source, put together. -/
theorem Engine.sum_map_partFor [SearchSize] {σ α : Type} (engine : Engine σ) (fallback : Bool)
    (part : Request → Option α) (requests : List Request) :
    (requests.map (engine.partFor fallback fun request =>
      ((part request).toList : Multiset α))).sum =
        ((requests.filter (engine.asks fallback)).filterMap part : Multiset α) := by
  induction requests with
  | nil => rfl
  | cons request requests ih =>
      rw [List.map_cons, List.sum_cons, ih, partFor, List.filter_cons]
      split
      · rw [List.filterMap_cons, Multiset.coe_add]
        cases part request <;> rfl
      · exact zero_add _

namespace Command

open Desk (Unheard)

variable {σ τ : Type}

/-- A place with another endpoint. -/
def Place.withEndpoint (place : Place σ) (endpoint : Chat.Endpoint τ) : Place τ :=
  ⟨place.read, place.input, endpoint, place.showsColour⟩

/-- Whether a switch forbids a run to ask. -/
def Forbids (place : Place σ) (arguments : Arguments) : Prop :=
  arguments.noFallback = true ∨
    (∀ key ∈ arguments.key, Text.isBlank key = true) ∨
    (∃ expression, arguments.task = .pattern expression) ∨
    ∃ path input, arguments.task = .batch path ∧ readBatch place path = .ok input ∧
      input.fallback = some false

/-- What a run posts to ask about a request, if it can make a posting. -/
def Arguments.posting? (arguments : Arguments) (request : Request) : Option Chat.Posting :=
  arguments.client?.bind fun client => client.posting? request

/-- A run has no client when the user forbids to ask, or when the key is missing or blank. -/
theorem isSome_client?_eq_false_iff (arguments : Arguments) :
    arguments.client?.isSome = false ↔
      arguments.noFallback = true ∨ ∀ key ∈ arguments.key, Text.isBlank key = true := by
  unfold Arguments.client?
  cases arguments.noFallback with
  | true => exact iff_of_true rfl (.inl rfl)
  | false =>
      rw [if_neg Bool.false_ne_true, Chat.Client.isSome_ofSettings,
        Chat.Settings.hasKey_eq_false_iff, or_iff_right Bool.false_ne_true]
      rfl

/-- A run has an arbiter just when it has a client. -/
theorem isSome_arbiter_engineFor (arguments : Arguments) (endpoint : Chat.Endpoint σ) :
    (engineFor arguments endpoint).1.arbiter.isSome = arguments.client?.isSome := by
  rw [arbiter_engineFor, Option.isSome_map]

/-- The work of a task may not ask for a pattern, or for a batch that says so. -/
theorem leave_eq_false_iff {place : Place σ} {task : Task} {load : Workload}
    (loaded : workload place task = .ok load) :
    load.leave = false ↔ (∃ expression, task = .pattern expression) ∨
      ∃ path input, task = .batch path ∧ readBatch place path = .ok input ∧
        input.fallback = some false := by
  cases task with
  | find expression sentence =>
      obtain rfl := Except.ok.inj loaded
      simp
  | batch path =>
      obtain ⟨input, readable, rfl⟩ := map_eq_ok.mp loaded
      have said : input.fallback.getD true = false ↔ input.fallback = some false := by
        rcases input.fallback with _ | _ | _ <;> simp
      simp [readable, said]
  | scan path mismatchesOnly =>
      obtain ⟨corpus, readable, rfl⟩ := map_eq_ok.mp loaded
      simp
  | pattern expression =>
      obtain rfl := Except.ok.inj loaded
      simp

/-- A switch forbids to ask exactly when the requests of a task are settled without leave. -/
theorem forbids_iff {place : Place σ} {arguments : Arguments} {load : Workload}
    (loaded : workload place arguments.task = .ok load) :
    Forbids place arguments ↔ (arguments.client?.isSome && load.leave) = false := by
  rw [Bool.and_eq_false_iff, isSome_client?_eq_false_iff, leave_eq_false_iff loaded, or_assoc]
  rfl

/-- The findings of a task, what it makes of them, and the desk it leaves. -/
def workTask [SearchSize] (place : Place σ) (arguments : Arguments) (engine : Engine (Chat.Line σ))
    (turns : List Nat) (desk : Desk (Chat.Line σ)) :
    (Except RunError (List Finding) × Except RunError Product) × Desk (Chat.Line σ) :=
  let (result, after) := runTask place arguments engine turns desk
  ((taskFindings place arguments engine turns desk, result), after)

section Quiet

variable [SearchSize] {place : Place σ} {arguments : Arguments} {engine : Engine (Chat.Line σ)}
  (quiet : ∀ load, workload place arguments.task = .ok load →
    (engine.arbiter.isSome && load.leave) = false)
  (endpoint : Chat.Endpoint τ) {other : Engine (Chat.Line τ)}
  (same : other.arbiter.isSome = engine.arbiter.isSome) (turns : List Nat)

include quiet same

/-- **A task that may not ask is the same for every endpoint.** -/
theorem unheard_workTask : Unheard (workTask place arguments engine turns)
    (workTask (place.withEndpoint endpoint) arguments other turns) := by
  intro desk memory
  unfold workTask runTask taskFindings
  cases task : arguments.task with
  | find expression sentence =>
      rw [task] at quiet
      have still := quiet ⟨[⟨expression, sentence⟩], true⟩ rfl
      rw [Bool.and_true] at still
      dsimp only
      unfold runFind
      rw [same, still, engine.unheard_find other _ desk memory]
      rcases engine.find false ⟨expression, sentence⟩ desk with ⟨error | finding, after⟩ <;> rfl
  | batch path =>
      rw [task] at quiet
      dsimp only
      unfold runBatch
      have input : readBatch (place.withEndpoint endpoint) path = readBatch place path := rfl
      rw [input]
      cases readable : readBatch place path with
      | error error => rfl
      | ok input =>
          have loaded : workload place (.batch path) =
              .ok ⟨input.requests, input.fallback.getD true⟩ := map_eq_ok.mpr ⟨input, readable, rfl⟩
          have still := quiet _ loaded
          simp only [Except.map] at still ⊢
          rw [same, still, engine.unheard_runBatch other _ _ desk memory]
          rfl
  | scan path mismatchesOnly =>
      rw [task] at quiet
      dsimp only
      unfold runScan
      have input : readCorpus (place.withEndpoint endpoint) path = readCorpus place path := rfl
      rw [input]
      cases readable : readCorpus place path with
      | error error => rfl
      | ok corpus =>
          have loaded : workload place (.scan path mismatchesOnly) =
              .ok ⟨corpus.samples.map (·.request), true⟩ := map_eq_ok.mpr ⟨corpus, readable, rfl⟩
          have still := quiet _ loaded
          rw [Bool.and_true] at still
          simp only [Except.map]
          rw [same, still, engine.unheard_scan other _ _ desk memory]
          rfl
  | pattern expression => rfl

end Quiet

/-- The notes on an engine do not depend on the endpoint. -/
theorem notes_engineFor (arguments : Arguments) (endpoint : Chat.Endpoint σ)
    (other : Chat.Endpoint τ) :
    (engineFor arguments other).2 = (engineFor arguments endpoint).2 := by
  unfold engineFor
  split
  · rfl
  · cases Chat.Client.ofSettings arguments.settings <;> rfl

/-- An outcome with another line. -/
def Outcome.withLine (outcome : Outcome σ) (line : Chat.Line τ) : Outcome τ :=
  ⟨outcome.exit, outcome.output, outcome.notes, outcome.error, line⟩

/-- What a run leaves behind does not depend on its line, but for the line itself. -/
theorem ofDone_withMemory (arguments : Arguments)
    (done : Except RunError Product × Desk (Chat.Line σ)) (line : Chat.Line τ) :
    Outcome.ofDone arguments (done.1, done.2.withMemory line) =
      (Outcome.ofDone arguments done).withLine line := by
  obtain ⟨error | product, after⟩ := done <;> rfl

section Run

variable [SearchSize] {place : Place σ} {arguments : Arguments} (turns : List Nat) (memory : σ)

/-- **A run that may not ask comes to the same for every endpoint**, and leaves the line to it as it
was. -/
theorem runWith_of_forbids (forbids : Forbids place arguments) (endpoint : Chat.Endpoint τ)
    (otherMemory : τ) :
    runWith (place.withEndpoint endpoint) arguments turns otherMemory =
        (runWith place arguments turns memory).withLine ⟨otherMemory, []⟩ ∧
      findingsOf (place.withEndpoint endpoint) arguments turns otherMemory =
        findingsOf place arguments turns memory := by
  have same : (engineFor arguments endpoint).1.arbiter.isSome =
      (engineFor arguments place.endpoint).1.arbiter.isSome := by
    rw [isSome_arbiter_engineFor, isSome_arbiter_engineFor]
  have begun : deskFor (place.withEndpoint endpoint) arguments otherMemory =
      (deskFor place arguments memory).withMemory ⟨otherMemory, []⟩ := by
    have notes := notes_engineFor arguments place.endpoint endpoint
    unfold deskFor Place.withEndpoint
    rw [notes]
    rfl
  have quiet : ∀ load, workload place arguments.task = .ok load →
      ((engineFor arguments place.endpoint).1.arbiter.isSome && load.leave) = false := by
    intro load loaded
    rw [isSome_arbiter_engineFor]
    exact (forbids_iff loaded).mp forbids
  have worked := unheard_workTask quiet endpoint same turns (deskFor place arguments memory)
    ⟨otherMemory, []⟩
  obtain ⟨both, left⟩ := Prod.mk.inj worked
  obtain ⟨findings, result⟩ := Prod.mk.inj both
  constructor
  · rw [runWith_eq_ofDone, runWith_eq_ofDone, begun, ← ofDone_withMemory]
    exact congrArg (Outcome.ofDone arguments) (Prod.ext result left)
  · unfold findingsOf
    rw [begun]
    exact findings

end Run

/-- The requests of a task, none if its input cannot be read. -/
def requestsOf (place : Place σ) (task : Task) : List Request :=
  match workload place task with
  | .ok load => load.requests
  | .error _ => []

section Work

variable [SearchSize] (place : Place σ) (arguments : Arguments) (engine : Engine (Chat.Line σ))
  (turns : List Nat) (desk : Desk (Chat.Line σ))

/-- A task leaves the desk as a batch of its requests does. -/
theorem exists_runBatch {load : Workload} (loaded : workload place arguments.task = .ok load) :
    ∃ pace notes, (runTask place arguments engine turns desk).2 =
      (engine.runBatch (engine.arbiter.isSome && load.leave) pace load.requests
        (desk.note notes)).2 := by
  unfold runTask
  cases task : arguments.task with
  | find expression sentence =>
      rw [task] at loaded
      obtain rfl := Except.ok.inj loaded
      -- One request that is settled by itself is a batch of one, and a pattern below one of none.
      refine ⟨.sequential, [], ?_⟩
      have left := engine.find_snd engine.arbiter.isSome ⟨expression, sentence⟩ desk
      rw [desk.note_nil, Bool.and_true]
      dsimp only [Engine.runBatch, Engine.runInOrder, Engine.runEach, Engine.runItem]
      rw [← left, runFind]
      rcases engine.find engine.arbiter.isSome ⟨expression, sentence⟩ desk with
        ⟨error | finding, after⟩ <;> rfl
  | batch path =>
      rw [task] at loaded
      obtain ⟨input, readable, rfl⟩ := map_eq_ok.mp loaded
      refine ⟨.ofTurns arguments.sequential input.requests.length turns, [], ?_⟩
      rw [desk.note_nil]
      dsimp only
      rw [runBatch, readable]
  | scan path mismatchesOnly =>
      rw [task] at loaded
      obtain ⟨corpus, readable, rfl⟩ := map_eq_ok.mp loaded
      refine ⟨.ofTurns arguments.sequential corpus.samples.length turns,
        [⟨.info, "scanning corpus", [("entries", .ofNat corpus.length),
          ("examples", .ofNat corpus.samples.length)], false⟩], ?_⟩
      rw [Bool.and_true]
      dsimp only
      rw [runScan, readable]
      rfl
  | pattern expression =>
      rw [task] at loaded
      obtain rfl := Except.ok.inj loaded
      refine ⟨.sequential, [], ?_⟩
      rw [desk.note_nil]
      rfl

/-- A task whose input cannot be read leaves the desk as it was. -/
theorem runTask_of_unreadable {error : RunError}
    (failed : workload place arguments.task = .error error) :
    (runTask place arguments engine turns desk).2 = desk := by
  unfold runTask
  cases task : arguments.task with
  | find expression sentence =>
      rw [task] at failed
      cases failed
  | batch path =>
      rw [task, workload] at failed
      dsimp only
      rw [runBatch]
      cases readable : readBatch place path with
      | error error => rfl
      | ok input =>
          rw [readable] at failed
          cases failed
  | scan path mismatchesOnly =>
      rw [task, workload] at failed
      dsimp only
      rw [runScan]
      cases readable : readCorpus place path with
      | error error => rfl
      | ok corpus =>
          rw [readable] at failed
          cases failed
  | pattern expression => rfl

end Work

/-- Asking about a request adds its posting, if it has one. -/
theorem gains_engineFor (arguments : Arguments) (endpoint : Chat.Endpoint σ) :
    (engineFor arguments endpoint).1.Gains (fun line => (line.postings : Multiset Chat.Posting))
      fun request => ((arguments.posting? request).toList : Multiset Chat.Posting) := by
  intro arbiter there request line
  rw [arbiter_engineFor] at there
  obtain ⟨client, made, rfl⟩ := Option.map_eq_some_iff.mp there
  have posted : (client.source endpoint request.expression request.sentence line).2.postings =
      line.postings ++ (client.posting? request).toList := client.postings_source request line
  dsimp only
  rw [posted, Arguments.posting?, made, Option.bind_some, Multiset.coe_add]

/-- A task asks about those of its requests that call for the source, once about each. -/
theorem runTask_asks [SearchSize] {place : Place σ} {arguments : Arguments}
    {engine : Engine (Chat.Line σ)}
    {posting? : Request → Option Chat.Posting}
    (gains : engine.Gains (fun line => (line.postings : Multiset Chat.Posting))
      fun request => ((posting? request).toList : Multiset Chat.Posting))
    {load : Workload} (loaded : workload place arguments.task = .ok load) (turns : List Nat)
    (desk : Desk (Chat.Line σ)) :
    let asked := load.requests.filter (engine.asks (engine.arbiter.isSome && load.leave))
    (runTask place arguments engine turns desk).2.calls = desk.calls + asked.length ∧
      (runTask place arguments engine turns desk).2.memory.postings.Perm
        (desk.memory.postings ++ asked.filterMap posting?) := by
  intro asked
  obtain ⟨pace, notes, left⟩ := exists_runBatch place arguments engine turns desk loaded
  constructor
  · rw [left, engine.calls_runBatch, Desk.calls_note, List.countP_eq_length_filter]
  · apply Multiset.coe_eq_coe.mp
    rw [left, gains.runBatch, engine.sum_map_partFor, Multiset.coe_add, Desk.memory_note]

/-- The requests that a run asks about. -/
def askedOf [SearchSize] (place : Place σ) (arguments : Arguments) : List Request :=
  match workload place arguments.task with
  | .ok load =>
    let engine := (engineFor arguments place.endpoint).1
    load.requests.filter (engine.asks (engine.arbiter.isSome && load.leave))
  | .error _ => []

/-- How often the source was asked in a run. -/
def callsOf [SearchSize] (place : Place σ) (arguments : Arguments) (turns : List Nat) (memory : σ) :
    Nat :=
  (runTask place arguments (engineFor arguments place.endpoint).1 turns
    (deskFor place arguments memory)).2.calls

/-- The line of a run is what its task leaves behind. -/
theorem line_runWith [SearchSize] (place : Place σ) (arguments : Arguments) (turns : List Nat)
    (memory : σ) :
    (runWith place arguments turns memory).line =
      (runTask place arguments (engineFor arguments place.endpoint).1 turns
        (deskFor place arguments memory)).2.memory := by
  rw [runWith_eq_ofDone, Outcome.ofDone]
  split <;> rfl

/-- A run asks once about each request that it leaves to the source, and posts just what can be
posted of them. -/
theorem runWith_asks [SearchSize] (place : Place σ) (arguments : Arguments) (turns : List Nat)
    (memory : σ) :
    callsOf place arguments turns memory = (askedOf place arguments).length ∧
      (runWith place arguments turns memory).line.postings.Perm
        ((askedOf place arguments).filterMap arguments.posting?) := by
  rw [callsOf, line_runWith]
  cases loaded : workload place arguments.task with
  | error error =>
      have none : askedOf place arguments = [] := by rw [askedOf, loaded]
      rw [runTask_of_unreadable place arguments _ turns _ loaded, none]
      exact ⟨rfl, .nil⟩
  | ok load =>
      have gains := gains_engineFor arguments place.endpoint
      obtain ⟨calls, postings⟩ := runTask_asks gains loaded turns (deskFor place arguments memory)
      rw [askedOf, loaded]
      exact ⟨calls.trans (Nat.zero_add _), postings⟩

/-- A run that forbids to ask leaves no request to the source. -/
theorem askedOf_of_forbids [SearchSize] {place : Place σ} {arguments : Arguments}
    (forbids : Forbids place arguments) : askedOf place arguments = [] := by
  unfold askedOf
  cases loaded : workload place arguments.task with
  | error error => rfl
  | ok load =>
      have still := (forbids_iff loaded).mp forbids
      rw [← isSome_arbiter_engineFor arguments place.endpoint] at still
      dsimp only
      rw [still]
      apply List.filter_eq_nil_iff.mpr
      intro request _
      rw [Engine.asks, Bool.and_false, Bool.false_and]
      exact Bool.false_ne_true

/-- A run that allows to ask leaves the missed requests to the source. -/
theorem askedOf_of_not_forbids [SearchSize] {place : Place σ} {arguments : Arguments}
    (allows : ¬Forbids place arguments) :
    askedOf place arguments = (requestsOf place arguments.task).filter Request.isMissed := by
  unfold askedOf requestsOf
  cases loaded : workload place arguments.task with
  | error error => rfl
  | ok load =>
      rw [forbids_iff loaded, Bool.not_eq_false,
        ← isSome_arbiter_engineFor arguments place.endpoint] at allows
      have there := (Bool.and_eq_true_iff.mp allows).1
      dsimp only
      rw [Engine.asks_eq_isMissed]
      rw [allows, there, Bool.true_and]

/-- **A run asks only when every switch allows it.** A switch forbids it, on the command line or
elsewhere, whatever the others say. Then nothing is posted, and the run comes to the same for every
endpoint. Otherwise the run asks once about each request that has no blank part and whose pattern
is missed, with at most one posting, and about no other. -/
theorem asks_only_when_allowed [SearchSize] (place : Place σ) {surroundings : Surroundings}
    {line : List String} {arguments : Arguments}
    (read : Arguments.ofList surroundings line = .ok arguments) (turns : List Nat) (memory : σ) :
    let outcome := runWith place arguments turns memory
    let calls := callsOf place arguments turns memory
    ("--no-fallback" ∈ choiceWords line → Forbids place arguments) ∧
      (Forbids place arguments → calls = 0 ∧ outcome.line = ⟨memory, []⟩ ∧
        ∀ {τ : Type} (endpoint : Chat.Endpoint τ) (otherMemory : τ),
          runWith (place.withEndpoint endpoint) arguments turns otherMemory =
              outcome.withLine ⟨otherMemory, []⟩ ∧
            findingsOf (place.withEndpoint endpoint) arguments turns otherMemory =
              findingsOf place arguments turns memory) ∧
      (¬Forbids place arguments →
        let missed := (requestsOf place arguments.task).filter Request.isMissed
        calls = missed.length ∧
          outcome.line.postings.Perm (missed.filterMap arguments.posting?)) := by
  intro outcome calls
  obtain ⟨asked, posted⟩ := runWith_asks place arguments turns memory
  refine ⟨?_, ?_, ?_⟩
  · intro listed
    exact .inl (noFallback_of_ofList read listed)
  · intro forbids
    have same := fun {τ : Type} (endpoint : Chat.Endpoint τ) (otherMemory : τ) =>
      runWith_of_forbids turns memory forbids endpoint otherMemory
    rw [askedOf_of_forbids forbids] at asked
    exact ⟨asked, congrArg Outcome.line (same place.endpoint memory).1, same⟩
  · intro allows
    rw [askedOf_of_not_forbids allows] at asked posted
    exact ⟨asked, posted⟩

/-- A batch that asks for leave does not get it against the command line, and a run that may ask
does so about a request that is missed. -/
theorem asks_only_when_allowed_on_board :
    let text :=
      "\x7b\"items\": [[\"on board\", \"Nobody is here.\"]], \"use_ai_fallback\": true\x7d"
    let endpoint : Chat.Endpoint Nat := fun _ count => ((.dropped, ⟨0⟩), count + 1)
    let place : Place Nat := ⟨fun _ => .error .noSuchFile, .ok text, endpoint, false⟩
    let around : Surroundings := ⟨none, none, some "k"⟩
    let batch : Arguments :=
      ⟨.batch "-", true, false, false, false, 0, 30, "gpt-4o-mini", "https://api.openai.com/v1",
        some "k"⟩
    let find : Arguments := ⟨.find "on board" "Nobody is here.", false, false, false, false, 0, 30,
      "gpt-4o-mini", "https://api.openai.com/v1", some "k"⟩
    Arguments.ofList around ["batch", "-", "--no-fallback"] = .ok batch ∧
      Arguments.ofList around ["find", "on board", "Nobody is here."] = .ok find ∧
      (runWith place batch [] 0).line = ⟨0, []⟩ ∧ ¬Forbids place find ∧
      callsOf place find [] 0 = 1 := by
  intro text endpoint place around batch find
  have batchRead : Arguments.ofList around ["batch", "-", "--no-fallback"] = .ok batch := rfl
  have findRead : Arguments.ofList around ["find", "on board", "Nobody is here."] = .ok find := rfl
  obtain ⟨forbids, quiet, _⟩ := asks_only_when_allowed place batchRead [] 0
  obtain ⟨_, _, asks⟩ := asks_only_when_allowed place findRead [] 0
  have allows : ¬Forbids place find := by
    rintro (off | blank | ⟨_, pattern⟩ | ⟨_, _, batch, _⟩)
    · cases off
    · exact absurd (blank "k" rfl) (by decide)
    · cases pattern
    · cases batch
  have found : (Idiom.ofStandard "on board").find "Nobody is here.".toList = .ok none := by cbv
  have missed : Request.isMissed ⟨"on board", "Nobody is here."⟩ = true := by
    rw [Request.isMissed, Request.hit?, found]
    decide
  refine ⟨batchRead, findRead, (quiet (forbids (by decide))).2.1, allows, ?_⟩
  rw [(asks allows).1]
  dsimp only [requestsOf, workload, find]
  rw [List.filter_cons_of_pos missed]
  rfl

end Command

end Locution
