import Locution.Engine

/-!
# Batches

A batch settles a list of requests. The findings come back in the order of the requests, one for
each, and every item is reported when it is done. A request with a blank part fails by itself and
stops nothing.

Items are worked on one after the other, or by helpers at the same time. The work on an item has
stages: its pattern is looked for, after a miss the rest is done, and the finding is reported.
Between two stages of an item, stages of other items can be done in any number and order. What the
helpers do is therefore given by a list of turns, each of which takes one item one stage further;
what the turns leave undone is done in the end, item by item.
-/

namespace Locution

/-- The words for a request with a blank part. -/
def missingInput : String := "Missing expression or sentence"

/-- How far the work on an item of a batch has come. -/
inductive Stage where
  | waiting
  | missed
  /-- The item is settled, but not reported. -/
  | settled (finding : Finding)
  | reported (finding : Finding)

namespace Stage

/-- The finding of an item that is reported. -/
def finding? : Stage → Option Finding
  | .reported finding => some finding
  | .waiting | .missed | .settled _ => none

/-- The report that the next turn of an item makes. -/
def report (index : Nat) : Stage → List (Nat × Finding)
  | .settled finding => [(index, finding)]
  | .waiting | .missed | .reported _ => []

end Stage

/-- An item of a batch that helpers work on. -/
structure BatchItem where
  request : Request
  stage : Stage

/-- A batch that helpers work on. -/
structure Bench (σ : Type) where
  items : List BatchItem
  reports : List (Nat × Finding)
  desk : Desk σ

namespace Bench

variable {σ : Type}

/-- A batch of which nothing is done. -/
def ofRequests (requests : List Request) (desk : Desk σ) : Bench σ :=
  ⟨requests.map fun request => ⟨request, .waiting⟩, [], desk⟩

/-- The findings of the items that are reported, in the order of the requests. -/
def findings (bench : Bench σ) : List Finding :=
  bench.items.filterMap (·.stage.finding?)

end Bench

namespace Engine

variable [SearchSize] {σ : Type}

/-- Settles one item of a batch. -/
def settleItem (engine : Engine σ) (fallback : Bool) (request : Request) (desk : Desk σ) :
    Finding × Desk σ :=
  if request.isBlank then (Finding.failed .neither missingInput, desk)
  else engine.settle fallback request desk

/-- Takes an item one stage further. -/
def advance (engine : Engine σ) (fallback : Bool) (request : Request) (stage : Stage)
    (desk : Desk σ) : Stage × Desk σ :=
  match stage with
  | .waiting =>
    if request.isBlank then (.settled (Finding.failed .neither missingInput), desk)
    else
      match engine.lookUp request desk with
      | (some finding, desk) => (.settled finding, desk)
      | (none, desk) => (.missed, desk)
  | .missed =>
    let (finding, desk) := engine.afterMiss fallback request desk
    (.settled finding, desk)
  | .settled finding | .reported finding => (.reported finding, desk)

/-- A turn of the item at a place. -/
def turn (engine : Engine σ) (fallback : Bool) (bench : Bench σ) (index : Nat) : Bench σ :=
  match bench.items[index]? with
  | none => bench
  | some item =>
    let (stage, desk) := engine.advance fallback item.request item.stage bench.desk
    { items := bench.items.set index { item with stage := stage }
      reports := bench.reports ++ item.stage.report index
      desk := desk }

end Engine

/-- How many turns an item has at most, until it is reported. -/
def turnsPerItem : Nat := 3

/-- Turns that bring every item of a batch to its end, one item after the other. -/
def closingTurns (count : Nat) : List Nat :=
  (List.range count).flatMap (List.replicate turnsPerItem)

/-- How a batch is worked through. -/
inductive Pace where
  | sequential
  /-- Helpers work at the same time and take the given turns first. -/
  | parallel (turns : List Nat)

namespace Pace

/-- A flag for one item after the other stands for a pace; without it, helpers take the items in
their order. -/
instance : Coe Bool Pace where
  coe sequential := if sequential then .sequential else .parallel []

/-- The pace for a batch of the given size, when helpers take the given turns first. A single item
is not worth a helper. -/
def ofTurns (sequential : Bool) (count : Nat) (turns : List Nat) : Pace :=
  if sequential || count ≤ 1 then .sequential else .parallel turns

/-- The pace for a batch of the given size, when helpers take the items in their order. -/
def ofFlag (sequential : Bool) (count : Nat) : Pace :=
  ofTurns sequential count []

end Pace

/-- What a batch comes to: the reports in the order in which items were done, and the findings in
the order of the requests. -/
structure BatchOutcome where
  reports : List (Nat × Finding)
  findings : List Finding

namespace Engine

variable [SearchSize] {σ : Type}

/-- Settles the item at a place and adds it to what is done, with its report. -/
def runItem (engine : Engine σ) (fallback : Bool) (index : Nat) (request : Request)
    (done : BatchOutcome) (desk : Desk σ) : BatchOutcome × Desk σ :=
  let (finding, desk) := engine.settleItem fallback request desk
  (⟨done.reports ++ [(index, finding)], done.findings ++ [finding]⟩, desk)

/-- Settles one item after the other, the first of them at the given place. -/
def runEach (engine : Engine σ) (fallback : Bool) :
    Nat → List Request → BatchOutcome → Desk σ → BatchOutcome × Desk σ
  | _, [], done, desk => (done, desk)
  | index, request :: requests, done, desk =>
    let (done, desk) := engine.runItem fallback index request done desk
    runEach engine fallback (index + 1) requests done desk

/-- Works through a batch without helpers. -/
def runInOrder (engine : Engine σ) (fallback : Bool) (requests : List Request) (desk : Desk σ) :
    BatchOutcome × Desk σ :=
  engine.runEach fallback 0 requests ⟨[], []⟩ desk

/-- Works through a batch with helpers. -/
def runTogether (engine : Engine σ) (fallback : Bool) (turns : List Nat)
    (requests : List Request) (desk : Desk σ) : BatchOutcome × Desk σ :=
  let bench := (turns ++ closingTurns requests.length).foldl (engine.turn fallback)
    (Bench.ofRequests requests desk)
  (⟨bench.reports, bench.findings⟩, bench.desk)

/-- Works through a batch. -/
def runBatch (engine : Engine σ) (fallback : Bool) (pace : Pace) (requests : List Request)
    (desk : Desk σ) : BatchOutcome × Desk σ :=
  match pace with
  | .sequential => engine.runInOrder fallback requests desk
  | .parallel turns => desk.elsewhere (engine.runTogether fallback turns requests)

end Engine

end Locution
