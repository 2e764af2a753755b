import Locution.Proofs.Corpus.Scan
import Locution.Session

/-! # When the source is asked

In a session the source is asked for the items that call for it, and for nothing else: the number of
calls is that of the items so far that call for one (`Engine.calls_perform`,
`Engine.getElem?_session`). What an item comes to depends on what the source remembers only
(`Engine.results_perform`), and not even on that when the item does not call for the source
(`Engine.resultIn_congr`). Both together are `Engine.asks_exactly_when_called_for`.
-/

namespace Locution

/-- The items of a step, with whether the source may be asked about them. -/
def Step.items : Step → List (Bool × Request)
  | .find fallback request => [(fallback, request)]
  | .tryPattern _ | .compile _ => []
  | .batch fallback _ requests => requests.map fun request => (fallback, request)
  | .scan fallback _ corpus => corpus.samples.map fun sample => (fallback, sample.request)

/-- What the items of a step come to, in their order. -/
def Answer.results : Answer → List (Except RequestError Finding)
  | .found result => [result]
  | .tried _ | .compiled _ => []
  | .batched outcome => outcome.findings.map .ok
  | .scanned records => records.map fun record => .ok record.finding

namespace Engine

variable [SearchSize] {σ : Type} (engine : Engine σ)

/-- How many items call for the source to be asked. -/
def callsNeeded (items : List (Bool × Request)) : Nat :=
  items.countP fun (fallback, request) => engine.asks fallback request

/-- The calls that two lists of requests need are added. -/
theorem callsNeeded_append (first second : List (Bool × Request)) :
    engine.callsNeeded (first ++ second) =
      engine.callsNeeded first + engine.callsNeeded second :=
  List.countP_append

/-- What an item of a step comes to, when the source remembers `memory`. Only finding by itself
turns a request down. -/
def resultIn (step : Step) (item : Bool × Request) (memory : σ) : Except RequestError Finding :=
  match step with
  | .find _ _ => engine.result item.1 item.2 memory
  | _ => .ok (engine.answer item.1 item.2 memory)

/-- **A step asks once for each of its items that calls for it.** -/
theorem calls_perform (step : Step) (desk : Desk σ) :
    (engine.perform step desk).2.calls = desk.calls + engine.callsNeeded step.items := by
  cases step with
  | find fallback request =>
      rw [callsNeeded, Step.items, List.countP_singleton]
      exact engine.calls_find fallback request desk
  | tryPattern request => rfl
  | compile expression => rfl
  | batch fallback pace requests =>
      rw [callsNeeded, Step.items, List.countP_map]
      exact engine.calls_runBatch fallback requests desk pace
  | scan fallback pace corpus =>
      have calls := engine.calls_scan fallback pace corpus desk
      rw [List.countP_map] at calls
      rw [callsNeeded, Step.items, List.countP_map]
      exact calls

/-- What the items of a step come to depends on the memory of the source only. -/
theorem results_perform (step : Step) (desk : Desk σ) :
    List.Forall₂ (fun item result => ∃ memory, result = engine.resultIn step item memory)
      step.items (engine.perform step desk).1.results := by
  cases step with
  | find fallback request =>
      exact .cons ⟨desk.memory, engine.find_fst fallback request desk⟩ .nil
  | tryPattern request => exact .nil
  | compile expression => exact .nil
  | batch fallback pace requests =>
      apply List.forall₂_map_left_iff.mpr
      apply List.forall₂_map_right_iff.mpr
      apply (engine.answers_runBatch fallback requests desk pace).findings.imp
      rintro request finding ⟨memory, rfl⟩
      exact ⟨memory, rfl⟩
  | scan fallback pace corpus =>
      apply List.forall₂_map_left_iff.mpr
      apply List.forall₂_map_right_iff.mpr
      apply (engine.forall₂_scan fallback pace corpus desk).imp
      rintro sample record ⟨memory, rfl⟩
      exact ⟨memory, rfl⟩

/-- An item of a step comes to something that depends on the memory of the source only. -/
theorem getElem?_results_perform {step : Step} {index : Nat} {item : Bool × Request}
    (found : step.items[index]? = some item) (desk : Desk σ) :
    ∃ memory, (engine.perform step desk).1.results[index]? =
      some (engine.resultIn step item memory) := by
  have pair := rel_getElem? (engine.results_perform step desk) index
  rw [found] at pair
  generalize (engine.perform step desk).1.results[index]? = result? at pair ⊢
  cases pair with
  | some made =>
      obtain ⟨memory, rfl⟩ := made
      exact ⟨memory, rfl⟩

variable (step : Step) (fallback : Bool) {request : Request} (memory : σ)

/-- A request without blank parts has the answer of the engine for a result. -/
theorem resultIn_of_filled (filled : request.isBlank = false) :
    engine.resultIn step (fallback, request) memory =
      .ok (engine.answer fallback request memory) := by
  have accepted : request.fault? = none := by
    rw [← Option.isNone_iff_eq_none, ← Option.not_isSome, Request.isSome_fault?, filled,
      Bool.not_false]
  cases step with
  | find => rw [resultIn, result, accepted]
  | _ => rfl

/-- A request whose pattern is found has this finding for a result, whatever the source
remembers. -/
theorem resultIn_of_hit (filled : request.isBlank = false) {finding : Finding}
    (hit : request.hit? = some finding) :
    engine.resultIn step (fallback, request) memory = .ok finding := by
  rw [resultIn_of_filled _ _ _ _ filled, answer, filled, if_neg Bool.false_ne_true, hit,
    Option.getD_some]

/-- An item whose pattern is missed and that does not call for the source has no match. -/
theorem resultIn_of_miss (filled : request.isBlank = false) (missed : request.hit? = none)
    (quiet : engine.asks fallback request = false) :
    engine.resultIn step (fallback, request) memory = .ok (Finding.unmatched .neither) := by
  rw [resultIn_of_filled _ _ _ _ filled, engine.answer_of_not_asks _ _ quiet, filled,
    if_neg Bool.false_ne_true, missed, Option.getD_none]

/-- An item that does not call for the source comes to the same with every engine for which it does
not, whatever either source remembers. -/
theorem resultIn_congr {τ : Type} (other : Engine τ) (otherMemory : τ)
    (quiet : engine.asks fallback request = false)
    (otherQuiet : other.asks fallback request = false) :
    engine.resultIn step (fallback, request) memory =
      other.resultIn step (fallback, request) otherMemory := by
  have same : engine.answer fallback request memory =
      other.answer fallback request otherMemory := by
    rw [answer_of_not_asks _ _ _ quiet, answer_of_not_asks _ _ _ otherQuiet]
  cases step with
  | find => rw [resultIn, resultIn, result, result, same]
  | _ => exact congrArg Except.ok same

/-- **Before each step of a session the source was asked once for each item so far that calls for
it.** -/
theorem getElem?_session {steps : List Step} {place : Nat} {step : Step}
    (found : steps[place]? = some step) (desk : Desk σ) :
    ∃ past : Desk σ, (engine.session steps desk)[place]? = some (engine.perform step past) ∧
      past.calls = desk.calls + engine.callsNeeded ((steps.take place).flatMap Step.items) := by
  induction steps generalizing place desk with
  | nil => cases found
  | cons first steps ih =>
      cases place with
      | zero =>
          obtain rfl := Option.some.inj found
          exact ⟨desk, rfl, rfl⟩
      | succ place =>
          obtain ⟨past, performed, calls⟩ := ih found (engine.perform first desk).2
          refine ⟨past, performed, ?_⟩
          rw [calls, calls_perform, List.take_succ_cons, List.flatMap_cons, callsNeeded_append,
            Nat.add_assoc]

/-- A session has one result for each step. -/
theorem length_session (steps : List Step) (desk : Desk σ) :
    (engine.session steps desk).length = steps.length := by
  induction steps generalizing desk with
  | nil => rfl
  | cons step steps ih => rw [session, List.length_cons, ih, List.length_cons]

/-- **The source is asked exactly when it is called for.** After every step of a session the number
of calls is that of the items so far that call for one. An item without blank parts whose pattern is
found comes to what the pattern tier finds, and one whose pattern is missed and that does not call
for the source has no match and no error. An item that does not call for the source comes to the
same with every engine for which it does not, whatever was done before. Working on an item asks once
when its request calls for it, by itself or in its turns between those of other items, and never
otherwise. -/
theorem asks_exactly_when_called_for (steps : List Step) (desk : Desk σ) :
    (engine.session steps desk).length = steps.length ∧
    (∀ (place : Nat) (step : Step) (answer : Answer) (after : Desk σ),
      steps[place]? = some step → (engine.session steps desk)[place]? = some (answer, after) →
      after.calls =
          desk.calls + engine.callsNeeded ((steps.take (place + 1)).flatMap Step.items) ∧
        answer.results.length = step.items.length ∧
        ∀ (index : Nat) (fallback : Bool) (request : Request)
          (result : Except RequestError Finding),
          step.items[index]? = some (fallback, request) → answer.results[index]? = some result →
          (request.isBlank = false →
            (∀ finding, request.hit? = some finding → result = .ok finding) ∧
            (request.hit? = none → engine.asks fallback request = false →
              result = .ok (Finding.unmatched .neither))) ∧
          (engine.asks fallback request = false →
            ∀ (τ : Type) (other : Engine τ) (past : Desk τ), other.asks fallback request = false →
              (other.perform step past).1.results[index]? = some result)) ∧
    (∀ (request : Request) (past : Desk σ),
      (engine.perform (.tryPattern request) past).1 = .tried request.hit?) ∧
    (∀ (fallback : Bool) (request : Request) (past : Desk σ),
      (engine.find fallback request past).2.calls =
          past.calls + (if engine.asks fallback request then 1 else 0) ∧
        (engine.settleItem fallback request past).2.calls =
          past.calls + if engine.asks fallback request then 1 else 0) ∧
    ∀ (fallback : Bool) (turns : List Nat) (requests : List Request) (place : Nat)
      (request : Request) (past : Desk σ), requests[place]? = some request →
      engine.callsBy fallback place (turns ++ closingTurns requests.length)
        (Bench.ofRequests requests past) = if engine.asks fallback request then 1 else 0 := by
  refine ⟨engine.length_session steps desk, ?_, ?_,
    fun fallback request past => ⟨engine.calls_find fallback request past,
      engine.calls_settleItem fallback request past⟩,
    fun fallback turns requests place request past found =>
      engine.callsBy_closingTurns fallback turns found past⟩
  · intro place step answer after found performed
    obtain ⟨past, performedThere, calls⟩ := engine.getElem?_session found desk
    obtain ⟨rfl, rfl⟩ : (engine.perform step past).1 = answer ∧
        (engine.perform step past).2 = after :=
      Prod.mk.inj (Option.some.inj (performedThere.symm.trans performed))
    refine ⟨?_, (engine.results_perform step past).length_eq.symm, ?_⟩
    · rw [calls_perform, calls, List.take_add_one, found, Option.toList_some, List.flatMap_append,
        List.flatMap_cons, List.flatMap_nil, List.append_nil, callsNeeded_append, Nat.add_assoc]
    · intro index fallback request result item made
      obtain ⟨memory, madeThere⟩ := engine.getElem?_results_perform item past
      obtain rfl := Option.some.inj (madeThere.symm.trans made)
      refine ⟨fun filled => ⟨fun finding hit => ?_, fun missed quiet => ?_⟩,
        fun quiet τ other otherPast otherQuiet => ?_⟩
      · exact engine.resultIn_of_hit step fallback memory filled hit
      · exact engine.resultIn_of_miss step fallback memory filled missed quiet
      · obtain ⟨otherMemory, otherMade⟩ := other.getElem?_results_perform item otherPast
        rw [otherMade,
          engine.resultIn_congr step fallback memory other otherMemory quiet otherQuiet]
  · exact fun request past => congrArg Answer.tried (patternTier_fst request)

end Engine

end Locution
