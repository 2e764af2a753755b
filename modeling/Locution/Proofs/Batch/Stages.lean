import Locution.Proofs.Engine

/-! # Stages of an item

The work on an item of a batch leads from stage to stage. Each stage fits the request of the item
(`Engine.fits_nextStage`): the pattern was missed before the rest is done, and what the item is
settled with is an answer of the engine. The source is asked in the turn that
settles an item that calls for it (`Engine.callsNext_add_callsFor`), and every turn brings an item
further until it is reported (`Engine.rank_nextStage`).
-/

namespace Locution

namespace Stage

/-- How many turns of an item have had an effect, counting the turn that a hit saves. -/
def rank : Stage → Nat
  | .waiting => 0
  | .missed => 1
  | .settled _ => 2
  | .reported _ => 3

/-- Whether an item has come so far that the source was asked about it, if it ever is. -/
def isSettled : Stage → Bool
  | .waiting | .missed => false
  | .settled _ | .reported _ => true

/-- Whether a stage can be that of an item with the given request. -/
def Fits [SearchSize] {σ : Type} (engine : Engine σ) (fallback : Bool) (request : Request) :
    Stage → Prop
  | .waiting => True
  | .missed => request.isBlank = false ∧ request.hit? = none
  | .settled finding | .reported finding =>
    ∃ memory, finding = engine.answer fallback request memory

/-- What an item is settled with is reported in its turn. -/
theorem mem_report_iff (stage : Stage) (index other : Nat) (finding : Finding) :
    (other, finding) ∈ stage.report index ↔ other = index ∧ stage = .settled finding := by
  cases stage with
  | settled settledWith =>
      simp only [report, List.mem_singleton, Prod.mk.injEq, settled.injEq,
        eq_comm (a := finding)]
  | _ => simp only [report, List.not_mem_nil, reduceCtorEq, and_false]

end Stage

namespace Engine

variable [SearchSize] {σ : Type} (engine : Engine σ) (fallback : Bool) (request : Request)

/-- Whether the source was asked about an item. -/
def asked (stage : Stage) : Bool :=
  engine.asks fallback request && stage.isSettled

/-- How often the source was asked about an item. -/
def callsFor (stage : Stage) : Nat :=
  if engine.asked fallback request stage then 1 else 0

/-- The stage after the next turn of an item, when the source remembers `memory`. -/
def nextStage (memory : σ) : Stage → Stage
  | .waiting =>
    if request.isBlank then .settled (Finding.failed .neither missingInput)
    else request.hit?.elim .missed .settled
  | .missed => .settled (engine.answerAfterMiss fallback request memory)
  | .settled finding | .reported finding => .reported finding

/-- How often the source is asked in the next turn of an item. -/
def callsNext : Stage → Nat
  | .missed => if fallback && engine.arbiter.isSome then 1 else 0
  | .waiting | .settled _ | .reported _ => 0

/-- The stage that a turn leads to depends on the memory of the source only. -/
theorem advance_fst (stage : Stage) (desk : Desk σ) :
    (engine.advance fallback request stage desk).1 =
      engine.nextStage fallback request desk.memory stage := by
  cases stage with
  | waiting =>
      have found := engine.lookUp_fst request desk
      unfold advance nextStage
      by_cases blank : request.isBlank = true
      · rw [if_pos blank, if_pos blank]
      · rw [if_neg blank, if_neg blank, ← found]
        rcases engine.lookUp request desk with ⟨_ | finding, after⟩ <;> rfl
  | missed => exact congrArg Stage.settled (engine.afterMiss_fst fallback request desk)
  | settled finding => rfl
  | reported finding => rfl

/-- A turn asks the source only after a miss. -/
theorem calls_advance (stage : Stage) (desk : Desk σ) :
    (engine.advance fallback request stage desk).2.calls =
      desk.calls + engine.callsNext fallback stage := by
  cases stage with
  | waiting =>
      have calls := engine.calls_lookUp request desk
      unfold advance callsNext
      by_cases blank : request.isBlank = true
      · rw [if_pos blank, Nat.add_zero]
      · rw [if_neg blank, Nat.add_zero, ← calls]
        rcases engine.lookUp request desk with ⟨_ | finding, after⟩ <;> rfl
  | missed => exact engine.calls_afterMiss fallback request desk
  | settled finding => rfl
  | reported finding => rfl

/-- A stage that fits the request is followed by one that fits it. -/
theorem fits_nextStage {stage : Stage} (fits : stage.Fits engine fallback request) (memory : σ) :
    (engine.nextStage fallback request memory stage).Fits engine fallback request := by
  cases stage with
  | waiting =>
      unfold nextStage
      by_cases blank : request.isBlank = true
      · rw [if_pos blank]
        exact ⟨memory, by rw [answer, if_pos blank]⟩
      · rw [if_neg blank]
        cases hit : request.hit? with
        | none => exact ⟨Bool.eq_false_iff.mpr blank, hit⟩
        | some finding => exact ⟨memory, by rw [answer, if_neg blank, hit, Option.getD_some]⟩
  | missed =>
      refine ⟨memory, ?_⟩
      rw [answer, if_neg (Bool.eq_false_iff.mp fits.1), fits.2, Option.getD_none]
  | settled finding => exact fits
  | reported finding => exact fits

/-- The source is asked in the turn that settles an item that calls for it. -/
theorem callsNext_add_callsFor {stage : Stage} (fits : stage.Fits engine fallback request)
    (memory : σ) :
    engine.callsNext fallback stage + engine.callsFor fallback request stage =
      engine.callsFor fallback request (engine.nextStage fallback request memory stage) := by
  cases stage with
  | waiting =>
      unfold callsNext nextStage callsFor asked asks
      by_cases blank : request.isBlank = true
      · simp only [blank, ↓reduceIte, Bool.not_true, Bool.false_and, Bool.false_eq_true]
      · rw [if_neg blank]
        cases request.hit? with
        | none =>
            rw [Stage.isSettled, Option.elim_none, Stage.isSettled, Bool.and_false, Nat.zero_add]
        | some finding =>
            simp only [Option.isNone_some, Bool.and_false, Bool.false_and, Bool.false_eq_true,
              ↓reduceIte]
  | missed =>
      simp only [callsNext, nextStage, callsFor, asked, asks, fits.1, fits.2, Option.isNone_none,
        Bool.not_false, Bool.true_and, Stage.isSettled, Bool.and_true, Bool.and_false,
        Bool.false_eq_true, ↓reduceIte, Nat.add_zero]
  | settled finding => exact Nat.zero_add _
  | reported finding => exact Nat.zero_add _

/-- A turn of an item brings it further until it is reported. -/
theorem rank_nextStage (stage : Stage) (memory : σ) :
    min 3 (stage.rank + 1) ≤ (engine.nextStage fallback request memory stage).rank := by
  cases stage with
  | waiting =>
      unfold nextStage
      by_cases blank : request.isBlank = true
      · rw [if_pos blank]
        exact Nat.le_succ 1
      · rw [if_neg blank]
        cases request.hit? with
        | none => exact Nat.le_refl 1
        | some finding => exact Nat.le_succ 1
  | missed => exact Nat.le_refl 2
  | settled finding => exact Nat.le_refl 3
  | reported finding => exact Nat.le_refl 3

/-- An item is reported after a turn if it was before, or if it was settled. -/
theorem finding?_nextStage (stage : Stage) (memory : σ) (finding : Finding) :
    (engine.nextStage fallback request memory stage).finding? = some finding ↔
      stage.finding? = some finding ∨ stage = .settled finding := by
  cases stage with
  | waiting =>
      refine iff_of_false ?_ (by rintro (equal | equal) <;> cases equal)
      unfold nextStage
      by_cases blank : request.isBlank = true
      · rw [if_pos blank]
        exact (Option.some_ne_none finding).symm
      · rw [if_neg blank]
        cases request.hit? <;> exact (Option.some_ne_none finding).symm
  | missed => simp only [nextStage, Stage.finding?, reduceCtorEq, or_self]
  | settled settledWith =>
      simp only [nextStage, Stage.finding?, Option.some.injEq, reduceCtorEq, Stage.settled.injEq,
        false_or]
  | reported reportedWith => simp only [nextStage, Stage.finding?, reduceCtorEq, or_false]

end Engine

end Locution
