import Locution.Pattern.Estimate
import Locution.Proofs.Batch.Outcome

/-! # Batches agree with settling each request

When the source always answers the same to the same question (`Engine.Steady`), an item of a batch
comes to what settling its request by itself comes to, one after the other or with helpers, whatever
turns they take (`Engine.runBatch_agrees`). A request with a blank part, which is turned down when
it comes by itself, fails as an item and stops nothing.
-/

namespace Locution

variable {σ : Type}

/-- Whether what an arbiter hears depends on the expression and the sentence only. -/
def Arbiter.Steady (arbiter : Arbiter σ) : Prop :=
  ∃ outcome : String → String → Except Failure Reply, ∀ expression sentence memory,
    (arbiter.source expression sentence memory).1.heard arbiter.limit = outcome expression sentence

namespace Arbiter

/-- An arbiter whose source meets every question in the same way and counts the questions. -/
def counting (response : Response) : Arbiter Nat where
  source _ _ count := (response, count + 1)
  limit := none

/-- A source that counts its questions and always responds alike is steady. -/
theorem steady_counting (response : Response) : (counting response).Steady :=
  ⟨fun _ _ => response.conduct.outcome, fun _ _ _ => rfl⟩

end Arbiter

namespace Engine

/-- Whether the answers of the semantic source depend on the expression and the sentence only. -/
def Steady (engine : Engine σ) : Prop :=
  ∀ arbiter ∈ engine.arbiter, arbiter.Steady

section Findings

variable [SearchSize] {engine : Engine σ}

/-- The answers of a steady engine do not depend on what the source remembers. -/
theorem Steady.answer_eq (steady : engine.Steady) (fallback : Bool) (request : Request)
    (memory other : σ) :
    engine.answer fallback request memory = engine.answer fallback request other := by
  have same : engine.answerAfterMiss fallback request memory =
      engine.answerAfterMiss fallback request other := by
    unfold answerAfterMiss
    split
    · rename_i arbiter there
      obtain ⟨outcome, heard⟩ := steady arbiter there
      rw [Arbiter.verdict, Arbiter.verdict, heard, heard]
    · rfl
  rw [answer, answer, same]

/-- The findings of a batch of a steady engine are its answers to the requests. -/
theorem Steady.findings_runBatch (steady : engine.Steady) (fallback : Bool) (pace : Pace)
    (requests : List Request) (desk : Desk σ) (memory : σ) :
    (engine.runBatch fallback pace requests desk).1.findings =
      requests.map fun request => engine.answer fallback request memory := by
  have answers := (engine.answers_runBatch fallback requests desk pace).findings
  have same : List.Forall₂ (fun request finding => engine.answer fallback request memory = finding)
      requests (engine.runBatch fallback pace requests desk).1.findings := by
    apply answers.imp
    rintro request finding ⟨other, rfl⟩
    exact steady.answer_eq fallback request memory other
  rw [← List.forall₂_map_left_iff, List.forall₂_eq_eq_eq] at same
  exact same.symm

/-- **A batch agrees with settling each request by itself.** One after the other or with helpers,
whatever turns they take, a batch of a steady engine has one finding for each request, in the order
of the requests. The finding is what settling the request by itself comes to, and says that a part
is blank exactly where the request by itself is turned down. Each finding is reported once, with its
place. A finding depends on its own request only, not on the other requests, the pace, or earlier
work. -/
theorem runBatch_agrees (engine : Engine σ) (steady : engine.Steady) (fallback : Bool) (pace : Pace)
    (requests : List Request) (desk : Desk σ) :
    let outcome := (engine.runBatch fallback pace requests desk).1
    outcome.findings.length = requests.length ∧
      (∀ (index : Nat) (request : Request), requests[index]? = some request →
        ∃ finding, outcome.findings[index]? = some finding ∧ ∀ alone : Desk σ,
          (∀ value, (engine.find fallback request alone).1 = .ok value → finding = value) ∧
          (finding = Finding.failed .neither missingInput ↔
            ∃ error, (engine.find fallback request alone).1 = .error error)) ∧
      outcome.reports.Perm (outcome.findings.mapIdx Prod.mk) ∧
      (∀ (otherPace : Pace) (otherDesk : Desk σ),
        (engine.runBatch fallback otherPace requests otherDesk).1.findings = outcome.findings) ∧
      ∀ (otherPace : Pace) (others : List Request) (otherDesk : Desk σ) (index : Nat),
        others[index]? = requests[index]? →
          (engine.runBatch fallback otherPace others otherDesk).1.findings[index]? =
            outcome.findings[index]? := by
  intro outcome
  have findings : outcome.findings = requests.map fun request =>
      engine.answer fallback request desk.memory :=
    steady.findings_runBatch fallback pace requests desk desk.memory
  refine ⟨?_, ?_, (engine.answers_runBatch fallback requests desk pace).reports, ?_, ?_⟩
  · rw [findings, List.length_map]
  · intro index request found
    refine ⟨engine.answer fallback request desk.memory, ?_, fun alone => ⟨?_, ?_⟩⟩
    · rw [findings, List.getElem?_map, found, Option.map_some]
    · intro value settled
      rw [← engine.answer_of_find fallback request settled]
      exact steady.answer_eq fallback request desk.memory alone.memory
    · rw [answer_eq_missingInput_iff, exists_error_find_iff]
  · intro otherPace otherDesk
    rw [findings, steady.findings_runBatch fallback otherPace requests otherDesk desk.memory]
  · intro otherPace others otherDesk index same
    rw [findings, steady.findings_runBatch fallback otherPace others otherDesk desk.memory,
      List.getElem?_map, List.getElem?_map, same]

end Findings

/-- A source that always crashes, but counts the questions, does not keep a blank request from
failing by itself. -/
theorem runBatch_agrees_crashing :
    let engine : Engine Nat := ⟨some (.counting ⟨.crashes, .ofSeconds 1, []⟩)⟩
    let requests : List Request :=
      [⟨"kick the bucket", "He passed away."⟩, ⟨" ", "He kicked the bucket."⟩]
    engine.Steady ∧
      (engine.runBatch true (.parallel [1, 0, 0, 1]) requests (Desk.ofMemory 0)).1.findings[1]? =
        some (Finding.failed .neither missingInput) := by
  intro engine requests
  have steady : engine.Steady := by
    rintro arbiter ⟨⟩
    exact Arbiter.steady_counting _
  obtain ⟨_, settled, _⟩ := runBatch_agrees engine steady true (.parallel [1, 0, 0, 1]) requests
    (Desk.ofMemory 0)
  obtain ⟨finding, found, alone⟩ := settled 1 ⟨" ", "He kicked the bucket."⟩ rfl
  refine ⟨steady, ?_⟩
  rw [found, (alone (Desk.ofMemory 0)).2.mpr ⟨.blankExpression, rfl⟩]

end Engine

end Locution
