import Mathlib.Algebra.BigOperators.Group.List.Basic
import Locution.Proofs.Batch.Turns

/-! # What the source gains

Take something that is kept in the memory of a source and grows with every question by a part that
depends on the request only (`Engine.Gains`), such as a record of what was posted. A batch makes it
grow by the parts of the requests that call for the source, one after the other or with helpers,
whatever turns they take (`Engine.Gains.runBatch`).
-/

namespace Locution

variable {σ M : Type} [AddCancelCommMonoid M]

/-- Putting an element in the place of another one changes a sum by their difference. -/
theorem sum_map_set_add {α : Type} (part : α → M) {items : List α} {index : Nat} {old : α}
    (found : items[index]? = some old) (new : α) :
    ((items.set index new).map part).sum + part old = (items.map part).sum + part new := by
  induction items generalizing index with
  | nil => cases found
  | cons item items ih =>
      cases index with
      | zero =>
          obtain rfl := Option.some.inj found
          rw [List.set_cons_zero, List.map_cons, List.sum_cons, List.map_cons, List.sum_cons,
            add_right_comm, add_comm (part new), add_right_comm]
      | succ index =>
          rw [List.set_cons_succ, List.map_cons, List.sum_cons, List.map_cons, List.sum_cons,
            add_assoc, ih found, add_assoc]

namespace Engine

/-- Whether a measure of what the source remembers grows by the given part when the source is asked
about a request. -/
def Gains (engine : Engine σ) (measure : σ → M) (part : Request → M) : Prop :=
  ∀ arbiter ∈ engine.arbiter, ∀ (request : Request) (memory : σ),
    measure (arbiter.source request.expression request.sentence memory).2 =
      measure memory + part request

/-- The part of a request that calls for the source; other requests have none. -/
def partFor [SearchSize] (engine : Engine σ) (fallback : Bool) (part : Request → M)
    (request : Request) : M :=
  if engine.asks fallback request then part request else 0

namespace Gains

variable [SearchSize] {engine : Engine σ} {measure : σ → M} {part : Request → M}
  (gains : engine.Gains measure part) (fallback : Bool) (request : Request)

include gains

/-- Behind a miss the part of the request is added if there is a source to fall back to. -/
theorem afterMiss (desk : Desk σ) :
    measure (engine.afterMiss fallback request desk).2.memory =
      measure desk.memory +
        if fallback && engine.arbiter.isSome then part request else 0 := by
  unfold Engine.afterMiss
  cases fallback with
  | false => exact (add_zero _).symm
  | true =>
      cases there : engine.arbiter with
      | none => exact (add_zero _).symm
      | some arbiter => exact gains arbiter there request desk.memory

/-- Settling a request adds its part when the request calls for the source. -/
theorem settle (filled : request.isBlank = false) (desk : Desk σ) :
    measure (engine.settle fallback request desk).2.memory =
      measure desk.memory + engine.partFor fallback part request := by
  have found := engine.lookUp_fst request desk
  have kept := engine.memory_lookUp request desk
  unfold Engine.settle partFor asks
  rcases split : engine.lookUp request desk with ⟨_ | finding, after⟩
  · rw [split] at found kept
    rw [← found, ← kept, filled]
    exact gains.afterMiss fallback request after
  · rw [split] at found kept
    rw [← found, ← kept, Option.isNone_some, Bool.and_false, Bool.false_and, Bool.false_and]
    exact (add_zero _).symm

/-- Settling an item adds its part when the request calls for the source; a blank one adds
nothing. -/
theorem settleItem (desk : Desk σ) :
    measure (engine.settleItem fallback request desk).2.memory =
      measure desk.memory + engine.partFor fallback part request := by
  unfold Engine.settleItem
  by_cases blank : request.isBlank = true
  · rw [if_pos blank, partFor, asks, blank]
    exact (add_zero _).symm
  · rw [if_neg blank]
    exact gains.settle fallback request (Bool.eq_false_iff.mpr blank) desk

/-- One item after the other, the parts of the requests that call for the source are added. -/
theorem runEach (index : Nat) (requests : List Request) (done : BatchOutcome) (desk : Desk σ) :
    measure (engine.runEach fallback index requests done desk).2.memory =
      measure desk.memory + (requests.map (engine.partFor fallback part)).sum := by
  induction requests generalizing index done desk with
  | nil => exact (add_zero _).symm
  | cons request requests ih =>
      rw [Engine.runEach, ih, runItem, gains.settleItem, List.map_cons, List.sum_cons, add_assoc]

/-- A turn adds the part of its item as often as it asks about it. -/
theorem advance (stage : Stage) (desk : Desk σ) :
    measure (engine.advance fallback request stage desk).2.memory =
      measure desk.memory + engine.callsNext fallback stage • part request := by
  cases stage with
  | waiting =>
      have kept := engine.memory_lookUp request desk
      rw [callsNext, zero_nsmul, add_zero]
      unfold Engine.advance
      by_cases blank : request.isBlank = true
      · rw [if_pos blank]
      · rw [if_neg blank, ← kept]
        rcases engine.lookUp request desk with ⟨_ | finding, after⟩ <;> rfl
  | missed =>
      have asked := gains.afterMiss fallback request desk
      rw [callsNext]
      by_cases called : (fallback && engine.arbiter.isSome) = true
      · rw [if_pos called] at asked ⊢
        rw [one_nsmul]
        exact asked
      · rw [if_neg called] at asked ⊢
        rw [zero_nsmul]
        exact asked
  | settled finding =>
      rw [callsNext, zero_nsmul]
      exact (add_zero _).symm
  | reported finding =>
      rw [callsNext, zero_nsmul]
      exact (add_zero _).symm

end Gains

end Engine

namespace Bench

variable [SearchSize] {engine : Engine σ} {fallback : Bool} {measure : σ → M} {part : Request → M}
  {requests : List Request} {calls : Nat} {bench : Bench σ}

/-- The parts of the items about which the source was asked. -/
def gained (engine : Engine σ) (fallback : Bool) (part : Request → M) (bench : Bench σ) : M :=
  (bench.items.map fun item =>
    engine.callsFor fallback item.request item.stage • part item.request).sum

/-- Before the first turn nothing was asked about. -/
theorem gained_ofRequests (requests : List Request) (desk : Desk σ) :
    (ofRequests requests desk).gained engine fallback part = 0 := by
  apply List.sum_eq_zero
  intro added member
  obtain ⟨item, listed, rfl⟩ := List.mem_map.mp member
  obtain ⟨request, _, rfl⟩ := List.mem_map.mp listed
  rw [Engine.callsFor, Engine.asked, Stage.isSettled, Bool.and_false, if_neg Bool.false_ne_true,
    zero_nsmul]

/-- A turn adds what the parts of the items change by. -/
theorem Sound.gained_turn (sound : bench.Sound engine fallback requests calls)
    (gains : engine.Gains measure part) (index : Nat) {before : M}
    (grown : measure bench.desk.memory = before + bench.gained engine fallback part) :
    measure (engine.turn fallback bench index).desk.memory =
      before + (engine.turn fallback bench index).gained engine fallback part := by
  cases found : bench.items[index]? with
  | none =>
      rw [Engine.turn, found]
      exact grown
  | some item =>
      have fits := sound.fits item (List.mem_of_getElem? found)
      have asked := engine.callsNext_add_callsFor fallback item.request fits bench.desk.memory
      have turned : measure (engine.turn fallback bench index).desk.memory =
          measure bench.desk.memory + engine.callsNext fallback item.stage • part item.request := by
        rw [Engine.turn, found]
        exact gains.advance fallback item.request item.stage bench.desk
      have moved : (engine.turn fallback bench index).gained engine fallback part =
          bench.gained engine fallback part +
            engine.callsNext fallback item.stage • part item.request := by
        -- What the item may still add is cancelled: a turn only moves it from one side to the
        -- other.
        apply add_right_cancel (b := engine.callsFor fallback item.request item.stage •
          part item.request)
        rw [add_assoc, ← add_nsmul, asked, gained, engine.items_turn fallback found]
        exact sum_map_set_add (fun item : BatchItem =>
          engine.callsFor fallback item.request item.stage • part item.request) found _
      rw [turned, grown, moved, add_assoc]

/-- Whatever turns are taken, the source gains the parts of the items that were asked about. -/
theorem Sound.gained_turns (sound : bench.Sound engine fallback requests calls)
    (gains : engine.Gains measure part) (turns : List Nat) {before : M}
    (grown : measure bench.desk.memory = before + bench.gained engine fallback part) :
    measure (turns.foldl (engine.turn fallback) bench).desk.memory =
      before + (turns.foldl (engine.turn fallback) bench).gained engine fallback part := by
  induction turns generalizing bench with
  | nil => exact grown
  | cons index turns ih => exact ih (sound.turn index) (sound.gained_turn gains index grown)

/-- In a batch that is done, the parts are those of the requests that call for the source. -/
theorem Sound.gained_eq_sum (sound : bench.Sound engine fallback requests calls)
    (done : bench.Done) :
    bench.gained engine fallback part = (requests.map (engine.partFor fallback part)).sum := by
  rw [← sound.requests, List.map_map, gained]
  refine congrArg List.sum (List.map_congr_left fun item member => ?_)
  obtain ⟨finding, reported⟩ := done item member
  rw [Engine.callsFor, Engine.asked, reported, Stage.isSettled, Bool.and_true, Function.comp_apply,
    Engine.partFor]
  split
  · exact one_nsmul _
  · exact zero_nsmul _

end Bench

namespace Engine.Gains

variable [SearchSize] {engine : Engine σ} {measure : σ → M} {part : Request → M}
  (gains : engine.Gains measure part) (fallback : Bool) (pace : Pace) (desk : Desk σ)

include gains

/-- **A batch adds the parts of the requests that call for the source**, at any pace. -/
theorem runBatch (requests : List Request) :
    measure (engine.runBatch fallback pace requests desk).2.memory =
      measure desk.memory + (requests.map (engine.partFor fallback part)).sum := by
  cases pace with
  | sequential => exact gains.runEach fallback 0 requests _ desk
  | parallel turns =>
      have begun := Bench.sound_ofRequests engine fallback requests { desk with journal := [] }
      have done := engine.done_closingTurns fallback turns requests { desk with journal := [] }
      rw [← (begun.turns _).gained_eq_sum done]
      refine begun.gained_turns gains _ ?_
      rw [Bench.gained_ofRequests, add_zero]
      rfl

end Engine.Gains

end Locution
