import Locution.Pattern.Estimate
import Locution.Proofs.Soundness

/-! # Failures of the source are contained

Asking gives a reply, the failure of the source, the failure of one that crashed, or that the time
is up (`Response.Gives`), and just one of them: what is heard (`Response.gives_iff`). A helper that
is done before the time is up is heard as the source itself would be (`Response.heard_of_inTime`).
So the finding of an arbiter tells the verdict on the reply or what went wrong (`Finding.Tells`),
and a time limit changes it only where it has run out (`Arbiter.resolve_contained`).
-/

namespace Locution

open Text

namespace Response

variable {limit : Option Duration} {response : Response} {outcome : Except Failure Reply}

/-- Whether a response comes before the time is up. -/
def InTime (limit : Option Duration) (response : Response) : Prop :=
  ∀ bound ∈ limit, response.delay.nanos < bound.nanos

/-- What asking gives within a time limit. -/
inductive Gives (limit : Option Duration) (response : Response) : Except Failure Reply → Prop where
  | reply {reply : Reply} (inTime : response.InTime limit)
      (replied : response.conduct = .replies reply) : Gives limit response (.ok reply)
  | failure {failure : Failure} (inTime : response.InTime limit)
      (failed : response.conduct = .fails failure) : Gives limit response (.error failure)
  | crash (inTime : response.InTime limit) (crashed : response.conduct = .crashes) :
      Gives limit response (.error (.transport "semantic matcher stopped without replying"))
  | late {bound : Duration} (limited : limit = some bound)
      (elapsed : bound.nanos ≤ response.delay.nanos) :
      Gives limit response (.error (.timedOut bound))

/-- A helper that is done in time is heard as the source itself. -/
theorem heard_of_inTime (inTime : response.InTime limit) :
    response.heard limit = response.heard none := by
  cases limit with
  | none => rfl
  | some bound =>
      rw [heard, await, if_pos (inTime bound rfl), heard]
      cases response.conduct <;> rfl

/-- When the time is up, it does not matter what the source would have done. -/
theorem heard_of_late {bound : Duration} (elapsed : bound.nanos ≤ response.delay.nanos) :
    response.heard (some bound) = .error (.timedOut bound) := by
  rw [heard, await, if_neg (Nat.not_lt.mpr elapsed)]

/-- What is heard is what asking gives. -/
theorem gives_heard (limit : Option Duration) (response : Response) :
    response.Gives limit (response.heard limit) := by
  by_cases inTime : response.InTime limit
  · rw [heard_of_inTime inTime]
    cases conduct : response.conduct with
    | replies reply =>
        rw [heard, conduct]
        exact .reply inTime conduct
    | fails failure =>
        rw [heard, conduct]
        exact .failure inTime conduct
    | crashes =>
        rw [heard, conduct]
        exact .crash inTime conduct
  · cases limit with
    | none => exact absurd (fun bound limited => nomatch limited) inTime
    | some bound =>
        have elapsed : bound.nanos ≤ response.delay.nanos := by
          refine Nat.not_lt.mp fun before => inTime fun other limited => ?_
          rwa [← Option.some.inj limited]
        rw [heard_of_late elapsed]
        exact .late rfl elapsed

/-- Asking gives nothing else than what is heard. -/
theorem Gives.heard_eq (gives : response.Gives limit outcome) : response.heard limit = outcome := by
  cases gives with
  | reply inTime replied => rw [heard_of_inTime inTime, heard, replied]; rfl
  | failure inTime failed => rw [heard_of_inTime inTime, heard, failed]; rfl
  | crash inTime crashed => rw [heard_of_inTime inTime, heard, crashed]; rfl
  | late limited elapsed => rw [limited, heard_of_late elapsed]

/-- Asking gives what is heard, and nothing else. -/
theorem gives_iff : response.Gives limit outcome ↔ response.heard limit = outcome :=
  ⟨Gives.heard_eq, fun same => same ▸ gives_heard limit response⟩

end Response

/-- Whether checking a reply against a sentence comes to a place, the claimed one or another. -/
def Reply.Places [SearchSize] (reply : Reply) (sentence : String) (start stop : Nat) : Prop :=
  reply.judge sentence = .accepted start stop ∨ reply.judge sentence = .repaired start stop

namespace Reply.Places

variable [SearchSize] {reply : Reply} {sentence : String} {start stop : Nat}

/-- A reply places its match at one range only. -/
theorem unique (places : reply.Places sentence start stop) {first last : Nat}
    (others : reply.Places sentence first last) : start = first ∧ stop = last := by
  rcases places with judged | judged <;> rcases others with other | other <;> rw [judged] at other
  · exact Verdict.accepted.inj other
  · cases other
  · cases other
  · exact Verdict.repaired.inj other

theorem ne_unmatched (places : reply.Places sentence start stop) :
    reply.judge sentence ≠ .unmatched := by
  rcases places with judged | judged <;> rw [judged] <;> exact Verdict.noConfusion

theorem ne_rejected (places : reply.Places sentence start stop) {reason : String} :
    reply.judge sentence ≠ .rejected reason := by
  rcases places with judged | judged <;> rw [judged] <;> exact Verdict.noConfusion

/-- The range of a reply that places a match covers characters of the sentence. -/
theorem covers (places : reply.Places sentence start stop) :
    Covers sentence.toList start stop := by
  rcases places with accepted | repaired
  · exact covers_of_claimedRange? (claimedRange?_of_accepted accepted)
  · exact covers_of_searchedRange? (searchedRange?_of_repaired repaired)

end Reply.Places

/-- The finding for a range of bytes has the range of its characters. -/
theorem Finding.charRange?_ofBytes {sentence : String} {start stop : Nat} {tier : Tier}
    (covers : Covers sentence.toList start stop) :
    charRange? sentence.toList start stop =
      some ((ofBytes sentence start stop tier).start, (ofBytes sentence start stop tier).stop) := by
  obtain ⟨first, last, filled, within, rfl, rfl⟩ := covers
  simp only [ofBytes, charRange?_byteLength_take (Nat.le_of_lt filled) within, Option.getD_some]

/-- Whether a finding tells what was given: the place at which a reply is accepted or repaired, or
what went wrong. -/
structure Finding.Tells [SearchSize] (finding : Finding) (sentence : String)
    (gives : Except Failure Reply → Prop) : Prop where
  tier : finding.tier = .semantic
  matched : finding.matched = true ↔
    ∃ reply start stop, gives (.ok reply) ∧ reply.Places sentence start stop
  place : ∀ reply start stop, gives (.ok reply) → reply.Places sentence start stop →
    charRange? sentence.toList start stop = some (finding.start, finding.stop) ∧
      finding.text.toList = slice sentence.toList finding.start finding.stop
  unmatched : finding.matched = false →
    finding = { Finding.unmatched .semantic with error := finding.error }
  error : ∀ message, finding.error = some message ↔
    (∃ failure, gives (.error failure) ∧ failure.message = message) ∨
      ∃ reply, gives (.ok reply) ∧ reply.judge sentence = .rejected message

namespace Arbiter

section Tells

variable [SearchSize] {expression sentence : String} {reply : Reply}

/-- A reply that places a match is settled as this match. -/
theorem settle_of_places {start stop : Nat} (places : reply.Places sentence start stop) :
    (settle expression sentence (.ok reply)).1 = Finding.ofBytes sentence start stop .semantic := by
  rcases places with accepted | repaired
  · rw [settle, accepted]
  · rw [settle, repaired]

theorem settle_of_unmatched (judged : reply.judge sentence = .unmatched) :
    (settle expression sentence (.ok reply)).1 = Finding.unmatched .semantic := by
  rw [settle, judged]

theorem settle_of_rejected {reason : String} (judged : reply.judge sentence = .rejected reason) :
    (settle expression sentence (.ok reply)).1 = Finding.failed .semantic reason := by
  rw [settle, judged]

/-- A finding without a match tells an outcome that comes to no place, if its error does. -/
theorem tells_missed {outcome : Except Failure Reply} {error? : Option String}
    (nowhere : ∀ reply start stop, outcome = .ok reply → ¬ reply.Places sentence start stop)
    (error : ∀ message, error? = some message ↔
      (∃ failure, outcome = .error failure ∧ failure.message = message) ∨
        ∃ reply, outcome = .ok reply ∧ reply.judge sentence = .rejected message) :
    ({ Finding.unmatched .semantic with error := error? } : Finding).Tells sentence
      (outcome = ·) where
  tier := rfl
  matched := by
    refine ⟨nofun, ?_⟩
    rintro ⟨reply, start, stop, given, places⟩
    exact absurd places (nowhere reply start stop given)
  place reply start stop given places := absurd places (nowhere reply start stop given)
  unmatched _ := rfl
  error := error

/-- The finding of a failure tells its message. -/
theorem tells_failed (sentence : String) (failure : Failure) :
    (Finding.failed .semantic failure.message).Tells sentence (.error failure = ·) := by
  refine tells_missed (fun _ _ _ given => nomatch given) fun message => ⟨fun same => ?_, ?_⟩
  · exact .inl ⟨failure, rfl, Option.some.inj same⟩
  · rintro (⟨other, given, rfl⟩ | ⟨_, given, _⟩)
    · rw [Except.error.inj given]
    · cases given

/-- The finding of a placed match tells its place. -/
theorem tells_ofBytes {start stop : Nat} (places : reply.Places sentence start stop) :
    (Finding.ofBytes sentence start stop .semantic).Tells sentence (.ok reply = ·) where
  tier := rfl
  matched := ⟨fun _ => ⟨reply, start, stop, rfl, places⟩, fun _ => rfl⟩
  place := by
    rintro other first last given placed
    obtain rfl := Except.ok.inj given
    obtain ⟨rfl, rfl⟩ := placed.unique places
    exact ⟨Finding.charRange?_ofBytes places.covers, String.toList_ofList⟩
  unmatched missed := nomatch missed
  error message := by
    refine ⟨nofun, ?_⟩
    rintro (⟨_, given, _⟩ | ⟨other, given, rejected⟩)
    · cases given
    · obtain rfl := Except.ok.inj given
      exact absurd rejected places.ne_rejected

/-- The finding without a match tells that there is none. -/
theorem tells_unmatched (judged : reply.judge sentence = .unmatched) :
    (Finding.unmatched .semantic).Tells sentence (.ok reply = ·) := by
  refine @tells_missed _ _ _ none ?_ fun message => ⟨nofun, ?_⟩
  · rintro other start stop given places
    obtain rfl := Except.ok.inj given
    exact places.ne_unmatched judged
  · rintro (⟨_, given, _⟩ | ⟨other, given, rejected⟩)
    · cases given
    · obtain rfl := Except.ok.inj given
      rw [judged] at rejected
      cases rejected

/-- The finding of a rejected reply tells the reason. -/
theorem tells_rejected {reason : String} (judged : reply.judge sentence = .rejected reason) :
    (Finding.failed .semantic reason).Tells sentence (.ok reply = ·) := by
  refine tells_missed ?_ fun message => ⟨fun same => ?_, ?_⟩
  · rintro other start stop given places
    obtain rfl := Except.ok.inj given
    exact places.ne_rejected judged
  · rw [← Option.some.inj same]
    exact .inr ⟨reply, rfl, judged⟩
  · rintro (⟨_, given, _⟩ | ⟨other, given, rejected⟩)
    · cases given
    · obtain rfl := Except.ok.inj given
      rw [judged] at rejected
      exact congrArg some (Verdict.rejected.inj rejected)

/-- The finding that an outcome is turned into tells it. -/
theorem tells_settle (expression sentence : String) (outcome : Except Failure Reply) :
    (settle expression sentence outcome).1.Tells sentence (outcome = ·) := by
  cases outcome with
  | error failure => exact tells_failed sentence failure
  | ok reply =>
      cases judged : reply.judge sentence with
      | accepted start stop =>
          rw [settle_of_places (.inl judged)]
          exact tells_ofBytes (.inl judged)
      | repaired start stop =>
          rw [settle_of_places (.inr judged)]
          exact tells_ofBytes (.inr judged)
      | unmatched =>
          rw [settle_of_unmatched judged]
          exact tells_unmatched judged
      | rejected reason =>
          rw [settle_of_rejected judged]
          exact tells_rejected judged

/-- **Failures of the source are contained.** Whatever a source does and however long it takes, the
finding of an arbiter belongs to the semantic tier and tells the verdict on the reply or what went
wrong. A source that is done before the time is up has the finding that it has without a time limit;
of any other one the finding says that the time is up. -/
theorem resolve_contained {σ : Type} (source : Source σ) (expression sentence : String)
    (desk : Desk σ) :
    let response := (source expression sentence desk.memory).1
    let finding := fun limit => ((⟨source, limit⟩ : Arbiter σ).resolve expression sentence desk).1
    (∀ limit, (finding limit).Tells sentence (response.Gives limit)) ∧
      ∀ bound,
        (response.delay.nanos < bound.nanos → finding (some bound) = finding none) ∧
        (bound.nanos ≤ response.delay.nanos →
          finding (some bound) = Finding.failed .semantic (Failure.timedOut bound).message) := by
  intro response finding
  have settled (limit : Option Duration) :
      finding limit = (settle expression sentence (response.heard limit)).1 :=
    resolve_fst _ expression sentence desk
  refine ⟨fun limit => ?_, fun bound => ⟨fun before => ?_, fun elapsed => ?_⟩⟩
  · have same : response.Gives limit = (response.heard limit = ·) :=
      funext fun outcome => propext Response.gives_iff
    rw [settled, same]
    exact tells_settle expression sentence _
  · have inTime : response.InTime (some bound) := fun other limited => by
      rwa [← Option.some.inj limited]
    rw [settled, settled, Response.heard_of_inTime inTime]
  · rw [settled, Response.heard_of_late elapsed]
    rfl

end Tells

/-- A crash within five seconds counts as a failure, and an answer after half a second is not heard
within twenty milliseconds. -/
theorem resolve_crash_and_delay :
    let crashing : Source Unit := fun _ _ memory => (⟨.crashes, ⟨1000000⟩, []⟩, memory)
    let slow : Source Unit := fun _ _ memory => (⟨.replies .none, ⟨500000000⟩, []⟩, memory)
    let desk : Desk Unit := .ofMemory ()
    ((⟨crashing, some (.ofSeconds 5)⟩ : Arbiter Unit).resolve "on board" "Stay on." desk).1 =
        Finding.failed .semantic "HTTP client error: semantic matcher stopped without replying" ∧
      ((⟨slow, some ⟨20000000⟩⟩ : Arbiter Unit).resolve "on board" "Stay on." desk).1 =
        Finding.failed .semantic "semantic match timed out after 20ms" := by
  intro crashing slow desk
  constructor
  · exact ((resolve_contained crashing "on board" "Stay on." desk).2 (.ofSeconds 5)).1 (by decide)
  · have message :
        (Failure.timedOut ⟨20000000⟩).message = "semantic match timed out after 20ms" := by
      decide +kernel
    rw [← message]
    exact ((resolve_contained slow "on board" "Stay on." desk).2 ⟨20000000⟩).2 (by decide)

end Arbiter

end Locution
