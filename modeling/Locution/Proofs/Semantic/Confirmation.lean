import Locution.Pattern.Estimate
import Locution.Proofs.Json.NumberText
import Locution.Proofs.Semantic.Arbiter
import Locution.Proofs.Semantic.Verdict
import Locution.Proofs.Text.Range

/-! # Findings are confirmed

What a finding states can be claimed again in a reply (`Finding.claim`). When the finding is true to
its sentence, the reply agrees with the sentence at the claimed characters, so it is accepted, and
the finding for the accepted bytes is the first one (`Finding.Sound.judge_claim`,
`Finding.Sound.ofBytes_eq`). So whatever an engine finds, a semantic source that repeats it is
neither corrected nor turned down (`Engine.claim_confirmed`).
-/

namespace Locution

open Text

/-- The reply that claims the match of a finding. -/
def Finding.claim (finding : Finding) : Reply :=
  ⟨true, some finding.start, some finding.stop, some finding.text⟩

namespace Finding.Sound

variable {sentence : String} {finding : Finding}

/-- A match that is true to its sentence can be claimed at its characters. -/
theorem claims (sound : finding.Sound sentence) (matched : finding.matched = true) :
    finding.claim.Claims sentence.toList finding.start finding.stop := by
  obtain ⟨ordered, within, _⟩ := sound.matched matched
  exact ⟨rfl, rfl, rfl, ordered, within⟩

/-- The claim of a sound match agrees with the sentence at its own place. -/
theorem agrees (sound : finding.Sound sentence) (matched : finding.matched = true) :
    finding.claim.Agrees sentence.toList finding.start finding.stop := by
  obtain ⟨_, _, text, _⟩ := sound.matched matched
  have claimed : finding.claim.claimedText.toList =
      slice sentence.toList finding.start finding.stop := text
  rw [Reply.Agrees, claimed]

/-- The claim of a match that is true to its sentence is accepted where the match stands. -/
theorem judge_claim [SearchSize] (sound : finding.Sound sentence)
    (matched : finding.matched = true) :
    finding.claim.judge sentence =
      .accepted (byteLength (sentence.toList.take finding.start))
        (byteLength (sentence.toList.take finding.stop)) :=
  (sound.claims matched).judge_eq_accepted (sound.agrees matched)

/-- The bytes of a match that is true to its sentence are those of its characters. -/
theorem charRange?_eq (sound : finding.Sound sentence) (matched : finding.matched = true) :
    charRange? sentence.toList (byteLength (sentence.toList.take finding.start))
        (byteLength (sentence.toList.take finding.stop)) =
      some (finding.start, finding.stop) := by
  obtain ⟨ordered, within, _⟩ := sound.matched matched
  exact charRange?_byteLength_take (Nat.le_of_lt ordered) within

/-- A match that is true to its sentence is found again from its bytes. -/
theorem ofBytes_eq (sound : finding.Sound sentence) (matched : finding.matched = true)
    (tier : Tier) :
    ofBytes sentence (byteLength (sentence.toList.take finding.start))
        (byteLength (sentence.toList.take finding.stop)) tier =
      { finding with tier := tier } := by
  obtain ⟨_, _, text, error, _⟩ := sound.matched matched
  have same : String.ofList (slice sentence.toList finding.start finding.stop) = finding.text := by
    rw [← text, String.ofList_toList]
  simp only [ofBytes, sound.charRange?_eq matched, Option.getD_some, same, matched, error]

/-- The numbers in the claim of a match have 64 bits with a sign, if the sentence has fewer bytes
than such numbers count. -/
theorem isInt64_claim (sound : finding.Sound sentence) (matched : finding.matched = true)
    (held : byteLength sentence.toList < Nat.pow 2 63) :
    Json.IsInt64 finding.start ∧ Json.IsInt64 finding.stop := by
  obtain ⟨ordered, within, _⟩ := sound.matched matched
  have counted := length_le_byteLength sentence.toList
  have small (place : Nat) (below : place ≤ sentence.toList.length) : Json.IsInt64 place :=
    ⟨by omega, by omega⟩
  exact ⟨small _ (by omega), small _ within⟩

end Finding.Sound

/-- An arbiter that hears an acceptable reply takes it as it is and has nothing to note. -/
theorem Arbiter.resolve_of_accepted [SearchSize] {τ : Type} (arbiter : Arbiter τ)
    {expression sentence : String} {desk : Desk τ} {reply : Reply} {start stop : Nat}
    (heard : (arbiter.source expression sentence desk.memory).1.heard arbiter.limit = .ok reply)
    (accepted : reply.judge sentence = .accepted start stop) :
    (arbiter.resolve expression sentence desk).1 = Finding.ofBytes sentence start stop .semantic ∧
      (arbiter.resolve expression sentence desk).2.journal = desk.journal ++
        (arbiter.source expression sentence desk.memory).1.seenNotes arbiter.limit := by
  have settled : settle expression sentence (.ok reply) =
      (Finding.ofBytes sentence start stop .semantic, []) := by
    rw [settle, accepted]
  simp only [resolve, Desk.ask, heard, settled, Desk.note, List.append_nil, and_self]

namespace Engine

variable {σ : Type}

/-- **A match that was found is confirmed.** Whatever engine finds a match in a sentence, by either
tier, the reply that claims the same characters and the same text is accepted, for bytes that cover
these characters, and the finding for these bytes is the one that was found. So a semantic source
that is asked about the sentence and repeats the claim in time has the same finding, and the arbiter
has nothing to note about it. The numbers of the claim have 64 bits with a sign if the bytes of the
sentence can be counted so. -/
theorem claim_confirmed [SearchSize] (engine : Engine σ) (fallback : Bool) (request : Request)
    (desk : Desk σ) (finding : Finding)
    (found : (engine.find fallback request desk).1 = .ok finding)
    (matched : finding.matched = true) :
    (∃ start stop, finding.claim.judge request.sentence = .accepted start stop ∧
      charRange? request.sentence.toList start stop = some (finding.start, finding.stop) ∧
      ∀ tier, Finding.ofBytes request.sentence start stop tier = { finding with tier := tier }) ∧
    (∀ (τ : Type) (arbiter : Arbiter τ) (expression : String) (other : Desk τ),
      let response := (arbiter.source expression request.sentence other.memory).1
      let settled := arbiter.resolve expression request.sentence other
      response.Gives arbiter.limit (.ok finding.claim) →
        settled.1 = { finding with tier := .semantic } ∧
          settled.2.journal = other.journal ++ response.seenNotes arbiter.limit) ∧
    (byteLength request.sentence.toList < Nat.pow 2 63 →
      Json.IsInt64 finding.start ∧ Json.IsInt64 finding.stop) := by
  have sound : finding.Sound request.sentence := engine.sound_find fallback found
  refine ⟨?_, ?_, sound.isInt64_claim matched⟩
  · exact ⟨_, _, sound.judge_claim matched, sound.charRange?_eq matched, sound.ofBytes_eq matched⟩
  · intro τ arbiter expression other response settled gives
    obtain ⟨same, noted⟩ :=
      arbiter.resolve_of_accepted gives.heard_eq (sound.judge_claim matched)
    rw [sound.ofBytes_eq matched] at same
    exact ⟨same, noted⟩

/-- A text that was claimed at the beginning and moved behind an accented letter is confirmed at its
new place. -/
theorem claim_confirmed_touch_base :
    let source : Source Unit := fun _ _ memory =>
      (⟨.replies ⟨true, some 0, some 5, some "TOUCH base"⟩, ⟨0⟩, []⟩, memory)
    let engine : Engine Unit := ⟨some ⟨source, none⟩⟩
    let request : Request := ⟨"get in touch", "Café plans: let's touch base soon"⟩
    let finding : Finding := ⟨true, 18, 28, "touch base", .semantic, none⟩
    (engine.find true request (.ofMemory ())).1 = .ok finding ∧ finding.matched = true ∧
      ∃ start stop, finding.claim.judge request.sentence = .accepted start stop ∧
        charRange? request.sentence.toList start stop = some (18, 28) := by
  intro source engine request finding
  have found : (engine.find true request (.ofMemory ())).1 = .ok finding := by decide +kernel
  obtain ⟨start, stop, accepted, range, _⟩ :=
    (claim_confirmed engine true request (.ofMemory ()) finding found rfl).1
  exact ⟨found, rfl, start, stop, accepted, range⟩

end Engine

end Locution
