import Locution.Corpus.Scan
import Locution.Proofs.Batch.Outcome

/-! # What a scan comes to

A scan is a batch of the examples of a corpus, so its records hold answers to them, in their order
(`Engine.forall₂_scan`), and the source is asked once for each example that calls for it
(`Engine.calls_scan`).
-/

namespace Locution

/-- Pairing related lists gives what related elements give, in their order. -/
theorem forall₂_zipWith {α β γ : Type} {related : α → β → Prop} {items : List α} {values : List β}
    (pairs : List.Forall₂ related items values) (f : α → β → γ) :
    List.Forall₂ (fun item made => ∃ value, related item value ∧ made = f item value)
      items (List.zipWith f items values) := by
  induction pairs with
  | nil => exact .nil
  | cons pair _ ih => exact .cons ⟨_, pair, rfl⟩ ih

namespace Engine

variable [SearchSize] {σ : Type} (engine : Engine σ) (fallback : Bool) (pace : Pace)
  (corpus : Corpus) (desk : Desk σ)

/-- **A scan answers every example of a corpus**, whatever its pace. -/
theorem forall₂_scan :
    List.Forall₂ (fun sample record => ∃ memory,
        record = Sample.record sample (engine.answer fallback sample.request memory))
      corpus.samples (engine.scan fallback pace corpus desk).1 := by
  have answers := (engine.answers_runBatch fallback (corpus.samples.map (·.request))
    (desk.note [⟨.info, "scanning corpus", [("entries", .ofNat corpus.length),
      ("examples", .ofNat corpus.samples.length)], false⟩]) pace).findings
  rw [List.forall₂_map_left_iff] at answers
  apply (forall₂_zipWith answers Sample.record).imp
  rintro sample record ⟨finding, ⟨memory, rfl⟩, rfl⟩
  exact ⟨memory, rfl⟩

/-- **A scan asks once for each example that calls for it.** -/
theorem calls_scan :
    (engine.scan fallback pace corpus desk).2.calls =
      desk.calls + (corpus.samples.map (·.request)).countP (engine.asks fallback) := by
  rw [scan, calls_runBatch, Desk.calls_note]

end Engine

end Locution
