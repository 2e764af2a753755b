import Locution.Corpus.Scan

/-!
# Sessions

A session takes steps of different kinds with one engine. What the semantic source remembers and how
often it was asked goes from one step to the next.
-/

namespace Locution

/-- A step of a session. -/
inductive Step where
  | find (fallback : Bool) (request : Request)
  | tryPattern (request : Request)
  | compile (expression : String)
  | batch (fallback : Bool) (pace : Pace) (requests : List Request)
  | scan (fallback : Bool) (pace : Pace) (corpus : Corpus)

/-- What a step comes to. -/
inductive Answer where
  | found (result : Except RequestError Finding)
  | tried (result : Option Finding)
  | compiled (idiom : Idiom)
  | batched (outcome : BatchOutcome)
  | scanned (records : List Record)

namespace Engine

variable [SearchSize] {σ : Type}

/-- Takes one step. -/
def perform (engine : Engine σ) (step : Step) (desk : Desk σ) : Answer × Desk σ :=
  match step with
  | .find fallback request =>
    let (result, desk) := engine.find fallback request desk
    (.found result, desk)
  | .tryPattern request =>
    let (result, desk) := engine.tryPattern request desk
    (.tried result, desk)
  | .compile expression => (.compiled (Idiom.ofStandard expression), desk)
  | .batch fallback pace requests =>
    let (outcome, desk) := engine.runBatch fallback pace requests desk
    (.batched outcome, desk)
  | .scan fallback pace corpus =>
    let (records, desk) := engine.scan fallback pace corpus desk
    (.scanned records, desk)

/-- Takes steps one after the other; with each answer goes the desk that it leaves behind. -/
def session (engine : Engine σ) : List Step → Desk σ → List (Answer × Desk σ)
  | [], _ => []
  | step :: steps, desk =>
    let done := engine.perform step desk
    done :: engine.session steps done.2

end Engine

end Locution
