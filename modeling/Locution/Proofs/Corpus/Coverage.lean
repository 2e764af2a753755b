import Mathlib.Algebra.GroupWithZero.Nat
import Locution.Pattern.Estimate
import Locution.Proofs.Batch.Agreement
import Locution.Proofs.Corpus.Scan

/-! # A scan covers its corpus

The examples of a corpus are listed by entry and then by example
(`Corpus.pairwise_place_samples`), and each of them is listed (`Corpus.mem_samples_iff`). A scan
makes one record of each, in this order (`Engine.place_scan`), so no record is lost or shifted by an
entry without examples, a blank text or an example that fails (`Engine.scan_covers_corpus`).
-/

namespace Locution

/-- Where an example stands: its entry, and its place in the entry. -/
def Sample.place (sample : Sample) : Nat × Nat :=
  (sample.entryIndex, sample.exampleIndex)

/-- Where the example of a record stands. -/
def Record.place (record : Record) : Nat × Nat :=
  (record.entryIndex, record.exampleIndex)

/-- The order of places: by entry and then by example. -/
abbrev PlaceOrder : Nat × Nat → Nat × Nat → Prop :=
  Prod.Lex (· < ·) (· < ·)

theorem PlaceOrder.ne {first second : Nat × Nat} (before : PlaceOrder first second) :
    first ≠ second := by
  rintro rfl
  cases before with
  | left _ _ earlier => exact Nat.lt_irrefl _ earlier
  | right _ earlier => exact Nat.lt_irrefl _ earlier

namespace Corpus

/-- The samples of an entry are its examples, each with its place and its sentence. -/
theorem mem_samplesOf_iff {entry : Entry} {place : Nat} {sample : Sample} :
    sample ∈ samplesOf place entry ↔ sample.entryIndex = place ∧
      ∃ sentence, entry.examples[sample.exampleIndex]? = some sentence ∧
        sample.request = ⟨entry.expression, sentence.text⟩ := by
  rw [samplesOf, List.mem_mapIdx]
  constructor
  · rintro ⟨index, within, rfl⟩
    exact ⟨rfl, entry.examples[index], List.getElem?_eq_getElem within, rfl⟩
  · rintro ⟨rfl, sentence, found, asked⟩
    obtain ⟨within, rfl⟩ := List.getElem?_eq_some_iff.mp found
    refine ⟨sample.exampleIndex, within, ?_⟩
    rw [← asked]

/-- The examples that are listed are those of the corpus, with their places. -/
theorem mem_samples_iff {corpus : Corpus} {sample : Sample} :
    sample ∈ corpus.samples ↔ ∃ entry sentence, corpus[sample.entryIndex]? = some entry ∧
      entry.examples[sample.exampleIndex]? = some sentence ∧
      sample.request = ⟨entry.expression, sentence.text⟩ := by
  simp only [samples, List.mem_flatten, List.mem_mapIdx]
  constructor
  · rintro ⟨listed, ⟨index, within, rfl⟩, member⟩
    obtain ⟨rfl, sentence, found, asked⟩ := mem_samplesOf_iff.mp member
    exact ⟨corpus[sample.entryIndex], sentence, List.getElem?_eq_getElem within, found, asked⟩
  · rintro ⟨entry, sentence, there, found, asked⟩
    obtain ⟨within, rfl⟩ := List.getElem?_eq_some_iff.mp there
    exact ⟨_, ⟨sample.entryIndex, within, rfl⟩,
      mem_samplesOf_iff.mpr ⟨rfl, sentence, found, asked⟩⟩

/-- The samples of an entry come in the order of their places. -/
theorem pairwise_place_samplesOf (place : Nat) (entry : Entry) :
    (samplesOf place entry).Pairwise fun first second =>
      PlaceOrder first.place second.place := by
  apply List.pairwise_iff_getElem.mpr
  intro first second _ _ earlier
  simp only [samplesOf, List.getElem_mapIdx, Sample.place]
  exact .right place earlier

/-- The examples of a corpus are listed by entry and then by example. -/
theorem pairwise_place_samples (corpus : Corpus) :
    corpus.samples.Pairwise fun first second => PlaceOrder first.place second.place := by
  refine List.pairwise_flatten.mpr ⟨?_, List.pairwise_iff_getElem.mpr ?_⟩
  · intro listed member
    obtain ⟨index, _, rfl⟩ := List.mem_mapIdx.mp member
    exact pairwise_place_samplesOf _ _
  · intro first second _ _ earlier sample member other otherMember
    rw [List.getElem_mapIdx] at member otherMember
    obtain ⟨place, _⟩ := mem_samplesOf_iff.mp member
    obtain ⟨otherPlace, _⟩ := mem_samplesOf_iff.mp otherMember
    refine .left _ _ ?_
    rw [place, otherPlace]
    exact earlier

/-- A corpus has as many samples as its entries have examples together. -/
theorem length_samples (corpus : Corpus) :
    corpus.samples.length = (corpus.map fun entry => entry.examples.length).sum := by
  have lengths : (corpus.mapIdx samplesOf).map List.length =
      corpus.map fun entry => entry.examples.length := by
    apply List.ext_getElem
    · rw [List.length_map, List.length_map, List.length_mapIdx]
    · intro index _ _
      simp only [List.getElem_map, List.getElem_mapIdx, samplesOf, List.length_mapIdx]
  rw [samples, List.length_flatten, lengths]

end Corpus

namespace Engine

section Scan

variable [SearchSize] {σ : Type} {engine : Engine σ}

/-- The records of a scan stand where the examples do, in their order. -/
theorem place_scan (engine : Engine σ) (fallback : Bool) (pace : Pace) (corpus : Corpus)
    (desk : Desk σ) :
    (engine.scan fallback pace corpus desk).1.map Record.place =
      corpus.samples.map Sample.place := by
  have same : List.Forall₂ (fun sample record => sample.place = Record.place record)
      corpus.samples (engine.scan fallback pace corpus desk).1 := by
    apply (engine.forall₂_scan fallback pace corpus desk).imp
    rintro sample record ⟨memory, rfl⟩
    rfl
  rw [← List.forall₂_eq_eq_eq, List.forall₂_map_left_iff, List.forall₂_map_right_iff]
  exact same.flip.imp fun record sample => Eq.symm

/-- The records of a scan with a steady engine hold its answers to the examples. -/
theorem Steady.scan_eq_map (steady : engine.Steady) (fallback : Bool) (pace : Pace)
    (corpus : Corpus) (desk : Desk σ) (memory : σ) :
    (engine.scan fallback pace corpus desk).1 = corpus.samples.map fun sample =>
      sample.record (engine.answer fallback sample.request memory) := by
  have same : List.Forall₂ (fun sample record =>
      sample.record (engine.answer fallback sample.request memory) = record)
      corpus.samples (engine.scan fallback pace corpus desk).1 := by
    apply (engine.forall₂_scan fallback pace corpus desk).imp
    rintro sample record ⟨other, rfl⟩
    rw [steady.answer_eq fallback sample.request memory other]
  rw [← List.forall₂_map_left_iff, List.forall₂_eq_eq_eq] at same
  exact same.symm

/-- **A scan covers every example of a corpus once, in order.** With a steady engine there are as
many records as examples, they stand by entry and then by example, and each place of the corpus has
exactly one. A record holds the expression of its entry, the text of its example, whether the one
stands word for word in the other, and what a batch of this request alone comes to, at any pace. The
mismatches are the records whose expression does not stand word for word, in the same order. -/
theorem scan_covers_corpus (engine : Engine σ) (steady : engine.Steady) (fallback : Bool)
    (pace : Pace) (corpus : Corpus) (desk : Desk σ) :
    let records := (engine.scan fallback pace corpus desk).1
    records.length = (corpus.map fun entry => entry.examples.length).sum ∧
      (records.map Record.place).Pairwise PlaceOrder ∧
      (∀ (index within : Nat) (entry : Entry) (sentence : Example), corpus[index]? = some entry →
        entry.examples[within]? = some sentence →
          (records.map Record.place).count (index, within) = 1) ∧
      (∀ record ∈ records, ∃ entry sentence, corpus[record.entryIndex]? = some entry ∧
        entry.examples[record.exampleIndex]? = some sentence ∧
        record.expression = entry.expression ∧ record.text = sentence.text ∧
        record.verbatim = isVerbatim entry.expression sentence.text ∧
        ∀ (otherPace : Pace) (alone : Desk σ),
          (engine.runBatch fallback otherPace [⟨entry.expression, sentence.text⟩]
            alone).1.findings = [record.finding]) ∧
      (mismatches records).Sublist records ∧
      ∀ record ∈ records, record ∈ mismatches records ↔ record.verbatim = false := by
  intro records
  have places : records.map Record.place = corpus.samples.map Sample.place :=
    engine.place_scan fallback pace corpus desk
  have sorted : (records.map Record.place).Pairwise PlaceOrder := by
    rw [places, List.pairwise_map]
    exact corpus.pairwise_place_samples
  refine ⟨?_, sorted, ?_, ?_, List.filter_sublist, ?_⟩
  · have lengths := congrArg List.length places
    rw [List.length_map, List.length_map] at lengths
    rw [lengths, corpus.length_samples]
  · intro index within entry sentence there found
    have distinct : (records.map Record.place).Nodup := sorted.imp PlaceOrder.ne
    refine List.count_eq_one_of_mem distinct ?_
    rw [places]
    exact List.mem_map.mpr ⟨⟨index, within, ⟨entry.expression, sentence.text⟩⟩,
      Corpus.mem_samples_iff.mpr ⟨entry, sentence, there, found, rfl⟩, rfl⟩
  · intro record member
    have made : record ∈ corpus.samples.map fun sample =>
        sample.record (engine.answer fallback sample.request desk.memory) :=
      steady.scan_eq_map fallback pace corpus desk desk.memory ▸ member
    obtain ⟨sample, listed, rfl⟩ := List.mem_map.mp made
    obtain ⟨entry, sentence, there, found, asked⟩ := Corpus.mem_samples_iff.mp listed
    refine ⟨entry, sentence, there, found, congrArg Request.expression asked,
      congrArg Request.sentence asked, ?_, fun otherPace alone => ?_⟩
    · rw [Sample.record, asked]
    · rw [steady.findings_runBatch fallback otherPace _ alone desk.memory, List.map_singleton,
        Sample.record, asked]
  · intro record member
    simp only [mismatches, List.mem_filter, member, true_and, Bool.not_eq_true']

end Scan

/-- An entry without examples and a blank text before it do not keep an example from its place. -/
theorem scan_covers_corpus_blank_example :
    let engine : Engine Nat := ⟨some (.counting ⟨.crashes, .ofSeconds 1, []⟩)⟩
    let entry : String → List String → Entry := fun expression texts =>
      ⟨expression, none, none, none, none, texts.map (⟨·, none⟩)⟩
    let corpus : Corpus :=
      [entry "kick the bucket" [], entry "on board" [" ", "Is everyone on board?"]]
    let records := (engine.scan true (.parallel [1, 0]) corpus (Desk.ofMemory 0)).1
    engine.Steady ∧ records.length = 2 ∧ (records.map Record.place).count (1, 1) = 1 ∧
      ∀ record ∈ records, record ∈ mismatches records ↔ record.verbatim = false := by
  intro engine entry corpus records
  have steady : engine.Steady := by
    rintro arbiter ⟨⟩
    exact Arbiter.steady_counting _
  obtain ⟨total, _, once, _, _, shown⟩ :=
    scan_covers_corpus engine steady true (.parallel [1, 0]) corpus (Desk.ofMemory 0)
  exact ⟨steady, total, once 1 1 _ _ rfl rfl, shown⟩

end Engine

end Locution
