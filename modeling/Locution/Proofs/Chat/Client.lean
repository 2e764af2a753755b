import Locution.Chat.Client
import Locution.Proofs.Batch.Agreement

/-! # What a client posts and hears

A client makes at most one posting of a request (`Client.posting?`), and its source posts just this
one when it is asked (`Client.postings_source`). When the endpoint always does the same with the
same posting, the client's source is steady (`Endpoint.Steady.arbiter`).
-/

namespace Locution.Chat

variable {σ : Type} {endpoint : Endpoint σ}

/-- Whether what an endpoint does with a posting depends on the posting only. -/
def Endpoint.Steady (endpoint : Endpoint σ) : Prop :=
  ∃ answer : Posting → Exchange × Duration, ∀ posting memory,
    (endpoint posting memory).1 = answer posting

/-- What was posted, the first posting first. -/
def Line.postings (line : Line σ) : List Posting :=
  line.exchanges.map (·.1)

/-- A posting is put down behind the postings before it. -/
theorem Line.postings_post (line : Line σ) (posting : Posting) :
    (line.post endpoint posting).2.postings = line.postings ++ [posting] := by
  rw [post, postings, postings, List.map_append, List.map_singleton]

namespace Client

variable (client : Client) (request : Request)

/-- What a client posts to ask about a request, unless the posting cannot be made. -/
def posting? : Option Posting :=
  (client.posting systemPrompt (userPrompt request.expression request.sentence)).toOption

/-- A client that is asked about a request posts at most once. -/
theorem postings_source (line : Line σ) :
    (client.source endpoint request.expression request.sentence line).2.postings =
      line.postings ++ (client.posting? request).toList := by
  dsimp only [source, complete, posting?]
  cases client.posting systemPrompt (userPrompt request.expression request.sentence) with
  | error failure => exact (List.append_nil _).symm
  | ok posting => exact line.postings_post posting

/-- What comes of posting to a steady endpoint. -/
theorem source_fst_congr {τ : Type} {other : Endpoint τ} (expression sentence : String)
    (line : Line σ) (otherLine : Line τ)
    (same : ∀ posting, (endpoint posting line.memory).1 = (other posting otherLine.memory).1) :
    (client.source endpoint expression sentence line).1 =
      (client.source other expression sentence otherLine).1 := by
  dsimp only [source, complete]
  cases client.posting systemPrompt (userPrompt expression sentence) with
  | error failure => rfl
  | ok posting =>
      dsimp only [Line.post]
      rw [same]

end Client

/-- A client of a steady endpoint makes a steady arbiter. -/
theorem Endpoint.Steady.arbiter (steady : endpoint.Steady) (client : Client)
    (limit : Option Duration) : Arbiter.Steady ⟨client.source endpoint, limit⟩ := by
  obtain ⟨answer, answers⟩ := steady
  let still : Endpoint Unit := fun posting memory => (answer posting, memory)
  refine ⟨fun expression sentence =>
    (client.source still expression sentence ⟨(), []⟩).1.heard limit, ?_⟩
  intro expression sentence line
  have same : (client.source endpoint expression sentence line).1 =
      (client.source still expression sentence ⟨(), []⟩).1 :=
    client.source_fst_congr expression sentence line ⟨(), []⟩
      fun posting => answers posting line.memory
  dsimp only
  rw [same]

end Locution.Chat
