import Mathlib.Data.List.Basic
import Locution.Corpus.Scan

/-! # Work without the source

Work that may not ask the source is the same work whatever the source is, and it leaves what the
source remembers as it is. Both are said at once: on the desk of another source, the work comes to
the same, and to the same desk of that source (`Desk.Unheard`). This holds of settling a request, of
a turn of a helper, and so of whole batches and scans (`Engine.unheard_runBatch`,
`Engine.unheard_scan`).
-/

namespace Locution

variable {σ τ : Type}

namespace Desk

/-- The desk of another source that remembers `memory`. -/
def withMemory (desk : Desk σ) (memory : τ) : Desk τ :=
  ⟨memory, desk.calls, desk.journal⟩

/-- Whether work at the desk of one source is work at the desk of another one, and heeds and changes
nothing that either source remembers. -/
def Unheard {α : Type} (work : Desk σ → α × Desk σ) (other : Desk τ → α × Desk τ) : Prop :=
  ∀ (desk : Desk σ) (memory : τ),
    other (desk.withMemory memory) = ((work desk).1, (work desk).2.withMemory memory)

/-- Work that is put aside for a helper is as deaf to the source as the work itself. -/
theorem Unheard.elsewhere {α : Type} {work : Desk σ → α × Desk σ} {other : Desk τ → α × Desk τ}
    (unheard : Unheard work other) :
    Unheard (fun desk => desk.elsewhere work) (fun desk => desk.elsewhere other) := by
  intro desk memory
  have worked := unheard { desk with journal := [] } memory
  unfold Desk.elsewhere
  dsimp only [withMemory] at worked ⊢
  rw [worked]

end Desk

/-- The batch at the desk of another source that remembers `memory`. -/
def Bench.withMemory (bench : Bench σ) (memory : τ) : Bench τ :=
  ⟨bench.items, bench.reports, bench.desk.withMemory memory⟩

namespace Engine

open Desk (Unheard)

variable [SearchSize] (engine : Engine σ) (other : Engine τ) (request : Request)

/-- Looking for a pattern does not depend on the source. -/
theorem unheard_lookUp : Unheard (engine.lookUp request) (other.lookUp request) := by
  intro desk memory
  unfold lookUp tryPattern
  rcases patternTier request.expression request.sentence with ⟨_ | finding, notes⟩ <;> rfl

/-- Without fallback the settling of a request does not depend on the source. -/
theorem unheard_settle : Unheard (engine.settle false request) (other.settle false request) := by
  intro desk memory
  unfold settle
  rw [engine.unheard_lookUp other request desk memory]
  rcases engine.lookUp request desk with ⟨_ | finding, after⟩ <;> rfl

/-- Without fallback the settling of an item does not depend on the source. -/
theorem unheard_settleItem :
    Unheard (engine.settleItem false request) (other.settleItem false request) := by
  intro desk memory
  unfold settleItem
  split
  · rfl
  · exact engine.unheard_settle other request desk memory

/-- Without fallback finding does not depend on the source. -/
theorem unheard_find : Unheard (engine.find false request) (other.find false request) := by
  intro desk memory
  unfold find
  split
  · rfl
  · split
    · rfl
    · rw [engine.unheard_settle other request desk memory]

/-- Without fallback an item of a batch is settled and reported alike, whatever the source is. -/
theorem unheard_runItem (index : Nat) (done : BatchOutcome) :
    Unheard (engine.runItem false index request done) (other.runItem false index request done) := by
  intro desk memory
  unfold runItem
  rw [engine.unheard_settleItem other request desk memory]

/-- Without fallback one item after the other has the same outcome, whatever the source is. -/
theorem unheard_runEach (index : Nat) (requests : List Request) (done : BatchOutcome) :
    Unheard (engine.runEach false index requests done)
      (other.runEach false index requests done) := by
  induction requests generalizing index done with
  | nil => exact fun _ _ => rfl
  | cons request requests ih =>
      intro desk memory
      unfold runEach
      rw [engine.unheard_runItem other request index done desk memory]
      exact ih _ _ _ _

/-- Without fallback an item is brought on alike at every stage, whatever the source is. -/
theorem unheard_advance (stage : Stage) :
    Unheard (engine.advance false request stage) (other.advance false request stage) := by
  intro desk memory
  cases stage with
  | waiting =>
      unfold advance
      by_cases blank : request.isBlank = true
      · rw [if_pos blank, if_pos blank]
      · rw [if_neg blank, if_neg blank, engine.unheard_lookUp other request desk memory]
        rcases engine.lookUp request desk with ⟨_ | finding, after⟩ <;> rfl
  | missed => rfl
  | settled finding => rfl
  | reported finding => rfl

/-- Without fallback a turn commutes with a change of what the source remembers. -/
theorem turn_withMemory (bench : Bench σ) (index : Nat) (memory : τ) :
    other.turn false (bench.withMemory memory) index =
      (engine.turn false bench index).withMemory memory := by
  have same : (bench.withMemory memory).items[index]? = bench.items[index]? := rfl
  unfold turn
  rw [same]
  cases bench.items[index]? with
  | none => rfl
  | some item =>
      have advanced := engine.unheard_advance other item.request item.stage bench.desk memory
      dsimp only [Bench.withMemory]
      rw [advanced]

theorem turns_withMemory (bench : Bench σ) (turns : List Nat) (memory : τ) :
    turns.foldl (other.turn false) (bench.withMemory memory) =
      (turns.foldl (engine.turn false) bench).withMemory memory := by
  induction turns generalizing bench with
  | nil => rfl
  | cons index turns ih =>
      rw [List.foldl_cons, List.foldl_cons, engine.turn_withMemory other, ih]

/-- **A batch that may not ask is the same for every source**, at any pace. -/
theorem unheard_runBatch (pace : Pace) (requests : List Request) :
    Unheard (engine.runBatch false pace requests) (other.runBatch false pace requests) := by
  cases pace with
  | sequential => exact engine.unheard_runEach other 0 requests _
  | parallel turns =>
      have together : Unheard (engine.runTogether false turns requests)
          (other.runTogether false turns requests) := by
        intro desk memory
        have begun : Bench.ofRequests requests (desk.withMemory memory) =
          (Bench.ofRequests requests desk).withMemory memory := rfl
        unfold runTogether
        rw [begun, engine.turns_withMemory other]
        rfl
      exact together.elsewhere

/-- **A scan that may not ask is the same for every source**, at any pace. -/
theorem unheard_scan (pace : Pace) (corpus : Corpus) :
    Unheard (engine.scan false pace corpus) (other.scan false pace corpus) := by
  intro desk memory
  have worked := engine.unheard_runBatch other pace (corpus.samples.map (·.request))
    (desk.note [⟨.info, "scanning corpus", [("entries", .ofNat corpus.length),
      ("examples", .ofNat corpus.samples.length)], false⟩]) memory
  unfold scan
  dsimp only [Desk.note, Desk.withMemory] at worked ⊢
  rw [worked]

end Engine

end Locution
