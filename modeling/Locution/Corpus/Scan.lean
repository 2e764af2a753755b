import Locution.Batch.Run
import Locution.Corpus.Entry
import Locution.Corpus.Verbatim

/-!
# Scanning a corpus

A scan settles every example of a corpus as one batch and gives one record for each, by entry and
then by example.
-/

namespace Locution

/-- What a scan says about one example. -/
structure Record where
  entryIndex : Nat
  exampleIndex : Nat
  expression : String
  text : String
  /-- Whether the expression stands word for word in the text. -/
  verbatim : Bool
  finding : Finding
  deriving DecidableEq

/-- An example with its place in the corpus. -/
structure Sample where
  entryIndex : Nat
  exampleIndex : Nat
  request : Request
  deriving DecidableEq

namespace Corpus

/-- The examples of an entry that stands at the given place. -/
def samplesOf (place : Nat) (entry : Entry) : List Sample :=
  entry.examples.mapIdx fun index sentence => ⟨place, index, ⟨entry.expression, sentence.text⟩⟩

/-- All examples of a corpus, by entry and then by example. -/
def samples (corpus : Corpus) : List Sample :=
  (corpus.mapIdx samplesOf).flatten

end Corpus

/-- The record of an example and its finding. -/
def Sample.record (sample : Sample) (finding : Finding) : Record :=
  { entryIndex := sample.entryIndex
    exampleIndex := sample.exampleIndex
    expression := sample.request.expression
    text := sample.request.sentence
    verbatim := isVerbatim sample.request.expression sample.request.sentence
    finding := finding }

/-- Settles every example of a corpus. -/
def Engine.scan [SearchSize] {σ : Type} (engine : Engine σ) (fallback : Bool) (pace : Pace)
    (corpus : Corpus) (desk : Desk σ) : List Record × Desk σ :=
  let samples := corpus.samples
  let begun := desk.note [⟨.info, "scanning corpus",
    [("entries", .ofNat corpus.length), ("examples", .ofNat samples.length)], false⟩]
  let requests := samples.map (·.request)
  let (outcome, desk) := engine.runBatch fallback pace requests begun
  (List.zipWith Sample.record samples outcome.findings, desk)

/-- The records whose expression does not stand word for word in the text. -/
def mismatches (records : List Record) : List Record :=
  records.filter fun record => !record.verbatim

end Locution
