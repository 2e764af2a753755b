import Mathlib.Data.List.Basic
import Locution.Batch.Run

/-! # What the engine answers, and when it asks

Settling a request has one answer for each state of the semantic source (`Engine.answer`), which
does not depend on anything else of the desk (`Engine.settleItem_fst`). It asks the source once when
the request calls for it, and not at all otherwise (`Engine.asks`, `Engine.calls_settleItem`).
-/

namespace Locution

open Text

/-- The finding of the pattern tier, if the pattern is found. -/
def Request.hit? [SearchSize] (request : Request) : Option Finding :=
  match (Idiom.ofStandard request.expression).find request.sentence.toList with
  | .ok (some span) => some (Finding.ofBytes request.sentence span.start span.stop .pattern)
  | _ => none

/-- Why finding turns a request down, if it does. -/
def Request.fault? (request : Request) : Option RequestError :=
  if Text.isBlank request.expression then some .blankExpression
  else if Text.isBlank request.sentence then some .blankSentence
  else none

/-- A request is turned down just when a part of it is blank. -/
theorem Request.isSome_fault? (request : Request) : request.fault?.isSome = request.isBlank := by
  unfold fault? isBlank
  split
  · rename_i expression
    rw [expression, Bool.true_or, Option.isSome_some]
  · rename_i expression
    rw [Bool.eq_false_iff.mpr expression, Bool.false_or]
    split
    · rename_i sentence
      rw [sentence, Option.isSome_some]
    · rename_i sentence
      rw [Bool.eq_false_iff.mpr sentence, Option.isSome_none]

/-- The pattern tier finds what the pattern of the request finds. -/
theorem patternTier_fst [SearchSize] (request : Request) :
    (patternTier request.expression request.sentence).1 = request.hit? := by
  dsimp only [patternTier, Request.hit?]
  rcases (Idiom.ofStandard request.expression).find request.sentence.toList with
    error | _ | span <;> rfl

/-- A finding of the pattern tier is that of a span at which the pattern is found. -/
theorem Request.hit?_eq_some [SearchSize] {request : Request} {finding : Finding}
    (hit : request.hit? = some finding) :
    ∃ span, (Idiom.ofStandard request.expression).find request.sentence.toList = .ok (some span) ∧
      finding = Finding.ofBytes request.sentence span.start span.stop .pattern := by
  unfold hit? at hit
  split at hit
  · rename_i span found
    exact ⟨span, found, (Option.some.inj hit).symm⟩
  · cases hit

namespace Arbiter

variable [SearchSize] {σ : Type} (arbiter : Arbiter σ) (expression sentence : String)

/-- The finding of an arbiter whose source remembers `memory`. -/
def verdict (memory : σ) : Finding :=
  (settle expression sentence
    ((arbiter.source expression sentence memory).1.heard arbiter.limit)).1

/-- What an arbiter finds depends on the memory of its source only. -/
theorem resolve_fst (desk : Desk σ) :
    (arbiter.resolve expression sentence desk).1 =
      arbiter.verdict expression sentence desk.memory :=
  rfl

/-- An arbiter asks its source once. -/
theorem calls_resolve (desk : Desk σ) :
    (arbiter.resolve expression sentence desk).2.calls = desk.calls + 1 := by
  rw [resolve, Desk.calls_note, Desk.calls_ask]

/-- Whatever its source does, the finding of an arbiter belongs to the semantic tier. -/
theorem tier_verdict (memory : σ) :
    (arbiter.verdict expression sentence memory).tier = .semantic := by
  unfold verdict settle
  split
  · rfl
  · split <;> rfl

end Arbiter

namespace Engine

variable [SearchSize] {σ : Type} (engine : Engine σ) (fallback : Bool) (request : Request)

/-- The finding of a request whose pattern was missed, when the source remembers `memory`. -/
def answerAfterMiss (memory : σ) : Finding :=
  match fallback, engine.arbiter with
  | true, some arbiter => arbiter.verdict request.expression request.sentence memory
  | _, _ => Finding.unmatched .neither

/-- The finding of an item of a batch, when the source remembers `memory`. -/
def answer (memory : σ) : Finding :=
  if request.isBlank then Finding.failed .neither missingInput
  else request.hit?.getD (engine.answerAfterMiss fallback request memory)

/-- What finding comes to, when the source remembers `memory`. -/
def result (memory : σ) : Except RequestError Finding :=
  match request.fault? with
  | some error => .error error
  | none => .ok (engine.answer fallback request memory)

/-- Whether the semantic source is to be asked about a request: no part of it is blank, its pattern
is missed, and it may and can be asked. -/
def asks : Bool :=
  !request.isBlank && request.hit?.isNone && fallback && engine.arbiter.isSome

/-- The answer to a request that the source is not to be asked about. -/
theorem answer_of_not_asks (quiet : engine.asks fallback request = false) (memory : σ) :
    engine.answer fallback request memory =
      if request.isBlank then Finding.failed .neither missingInput
      else request.hit?.getD (Finding.unmatched .neither) := by
  unfold answer
  split
  · rfl
  · rename_i blank
    cases hit : request.hit? with
    | some finding => rfl
    | none =>
        rw [asks, Bool.eq_false_iff.mpr blank, hit, Option.isNone_none, Bool.not_false,
          Bool.true_and, Bool.true_and] at quiet
        rw [Option.getD_none, Option.getD_none]
        unfold answerAfterMiss
        split
        · rename_i arbiter there
          rw [there] at quiet
          cases quiet
        · rfl

/-- The pattern tier settles nothing after a miss. -/
theorem tier_answerAfterMiss_ne (memory : σ) :
    (engine.answerAfterMiss fallback request memory).tier ≠ .pattern := by
  unfold answerAfterMiss
  split
  · rw [Arbiter.tier_verdict]
    exact Tier.noConfusion
  · exact Tier.noConfusion

/-- What the pattern tier settles is a hit. -/
theorem isSome_hit?_of_tier {memory : σ}
    (settled : (engine.answer fallback request memory).tier = .pattern) :
    request.hit?.isSome = true := by
  unfold answer at settled
  split at settled
  · cases settled
  · cases hit : request.hit? with
    | some finding => rfl
    | none =>
        rw [hit, Option.getD_none] at settled
        exact absurd settled (engine.tier_answerAfterMiss_ne fallback request memory)

/-- An answer says that a part of the request is blank exactly where one is. -/
theorem answer_eq_missingInput_iff (memory : σ) :
    engine.answer fallback request memory = Finding.failed .neither missingInput ↔
      request.isBlank = true := by
  unfold answer
  by_cases blank : request.isBlank = true
  · rw [if_pos blank]
    exact iff_of_true rfl blank
  · rw [if_neg blank]
    refine iff_of_false (fun same => ?_) blank
    cases hit : request.hit? with
    | some finding =>
        obtain ⟨span, _, rfl⟩ := Request.hit?_eq_some hit
        rw [hit] at same
        exact Bool.noConfusion (congrArg Finding.matched same)
    | none =>
        rw [hit, Option.getD_none] at same
        unfold answerAfterMiss at same
        split at same
        · rename_i arbiter _
          have semantic := arbiter.tier_verdict request.expression request.sentence memory
          rw [same] at semantic
          cases semantic
        · cases congrArg Finding.error same

/-- Looking for the pattern finds what the pattern tier finds. -/
theorem lookUp_fst (desk : Desk σ) : (engine.lookUp request desk).1 = request.hit? := by
  have tier := patternTier_fst request
  unfold lookUp tryPattern
  rcases split : patternTier request.expression request.sentence with ⟨_ | finding, notes⟩ <;>
    rw [split] at tier <;> exact tier

/-- Looking for the pattern leaves the memory of the source as it is. -/
theorem memory_lookUp (desk : Desk σ) : (engine.lookUp request desk).2.memory = desk.memory := by
  unfold lookUp tryPattern
  rcases patternTier request.expression request.sentence with ⟨_ | finding, notes⟩ <;> rfl

/-- Looking for the pattern asks nothing. -/
theorem calls_lookUp (desk : Desk σ) : (engine.lookUp request desk).2.calls = desk.calls := by
  unfold lookUp tryPattern
  rcases patternTier request.expression request.sentence with ⟨_ | finding, notes⟩ <;> rfl

/-- What a miss comes to depends on the memory of the source only. -/
theorem afterMiss_fst (desk : Desk σ) :
    (engine.afterMiss fallback request desk).1 =
      engine.answerAfterMiss fallback request desk.memory := by
  unfold afterMiss answerAfterMiss
  rcases engine with ⟨_ | arbiter⟩ <;> cases fallback <;> rfl

/-- Behind a miss the source is asked once, if there is one to fall back to. -/
theorem calls_afterMiss (desk : Desk σ) :
    (engine.afterMiss fallback request desk).2.calls =
      desk.calls + if fallback && engine.arbiter.isSome then 1 else 0 := by
  unfold afterMiss
  rcases engine with ⟨_ | arbiter⟩
  · cases fallback <;> rfl
  · cases fallback with
    | false => rfl
    | true =>
        rw [if_pos rfl, arbiter.calls_resolve, Desk.calls_note]
        rfl

/-- What settling a request comes to depends on the memory of the source only. -/
theorem settle_fst (desk : Desk σ) :
    (engine.settle fallback request desk).1 =
      request.hit?.getD (engine.answerAfterMiss fallback request desk.memory) := by
  have found := engine.lookUp_fst request desk
  have kept := engine.memory_lookUp request desk
  unfold settle
  rcases split : engine.lookUp request desk with ⟨_ | finding, after⟩
  · rw [split] at found kept
    rw [← found, Option.getD_none, ← kept]
    exact engine.afterMiss_fst fallback request after
  · rw [split] at found
    rw [← found, Option.getD_some]

/-- Settling an item gives the answer of the engine, whatever else is on the desk. -/
theorem settleItem_fst (desk : Desk σ) :
    (engine.settleItem fallback request desk).1 =
      engine.answer fallback request desk.memory := by
  unfold settleItem answer
  split
  · rfl
  · exact engine.settle_fst fallback request desk

/-- Settling a request asks once when the request calls for it. -/
theorem calls_settle (filled : request.isBlank = false) (desk : Desk σ) :
    (engine.settle fallback request desk).2.calls =
      desk.calls + if engine.asks fallback request then 1 else 0 := by
  have found := engine.lookUp_fst request desk
  have calls := engine.calls_lookUp request desk
  unfold settle asks
  rcases split : engine.lookUp request desk with ⟨_ | finding, after⟩
  · rw [split] at found calls
    rw [← found, ← calls, filled]
    exact engine.calls_afterMiss fallback request after
  · rw [split] at found calls
    rw [← found, ← calls, Option.isNone_some, Bool.and_false, Bool.false_and, Bool.false_and]
    rfl

/-- Settling an item asks once when the request calls for it. -/
theorem calls_settleItem (desk : Desk σ) :
    (engine.settleItem fallback request desk).2.calls =
      desk.calls + if engine.asks fallback request then 1 else 0 := by
  unfold settleItem
  by_cases blank : request.isBlank = true
  · rw [if_pos blank, asks, blank]
    rfl
  · rw [if_neg blank]
    exact engine.calls_settle fallback request (Bool.eq_false_iff.mpr blank) desk

/-- What finding comes to depends on the memory of the source only. -/
theorem find_fst (desk : Desk σ) :
    (engine.find fallback request desk).1 = engine.result fallback request desk.memory := by
  have settled := engine.settle_fst fallback request desk
  unfold find result Request.fault?
  split
  · rfl
  · rename_i expression
    split
    · rfl
    · rename_i sentence
      have filled : request.isBlank = false := by
        rw [Request.isBlank, Bool.eq_false_iff.mpr expression, Bool.eq_false_iff.mpr sentence,
          Bool.or_self]
      rw [answer, filled, if_neg Bool.false_ne_true, ← settled]

/-- Requests are turned down exactly for a blank part, whatever the desk. -/
theorem exists_error_find_iff (desk : Desk σ) :
    (∃ error, (engine.find fallback request desk).1 = .error error) ↔ request.isBlank = true := by
  rw [find_fst, result, ← request.isSome_fault?]
  cases request.fault? with
  | some error => exact iff_of_true ⟨error, rfl⟩ rfl
  | none => exact iff_of_false (fun ⟨_, turnedDown⟩ => nomatch turnedDown) Bool.false_ne_true

/-- What a request that is not turned down comes to is what it comes to as an item of a batch. -/
theorem answer_of_find {desk : Desk σ} {finding : Finding}
    (found : (engine.find fallback request desk).1 = .ok finding) :
    engine.answer fallback request desk.memory = finding := by
  rw [find_fst, result] at found
  cases fault : request.fault? with
  | some error =>
      rw [fault] at found
      cases found
  | none =>
      rw [fault] at found
      exact Except.ok.inj found

/-- A request that is settled by itself leaves the desk as an item of a batch does. -/
theorem find_snd (desk : Desk σ) :
    (engine.find fallback request desk).2 = (engine.settleItem fallback request desk).2 := by
  unfold find settleItem Request.isBlank
  by_cases expression : Text.isBlank request.expression = true
  · rw [if_pos expression, expression, Bool.true_or, if_pos rfl]
  · rw [if_neg expression, Bool.eq_false_iff.mpr expression, Bool.false_or]
    split <;> rfl

/-- Finding asks once when the request calls for it; a request that is turned down asks nothing. -/
theorem calls_find (desk : Desk σ) :
    (engine.find fallback request desk).2.calls =
      desk.calls + if engine.asks fallback request then 1 else 0 := by
  rw [find_snd, calls_settleItem]

end Engine

end Locution
