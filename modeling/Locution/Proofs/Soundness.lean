import Locution.Proofs.Corpus.Scan
import Locution.Proofs.Template.Leftmost
import Locution.Proofs.Text.Offset
import Locution.Session

/-! # Findings are true to their sentences

A match that a finding states stands in the sentence at the stated characters, and a finding without
a match states no place (`Finding.Sound`). Every range of bytes that leads to a match begins and
ends between characters of the sentence: that of a span of the pattern tier
(`Idiom.covers_of_find`), that of the place that a reply claims, and that at which its text is found
(`Reply.covers_of_claimedRange?`, `Reply.covers_of_searchedRange?`). So whatever the semantic source
does, every finding is sound (`Engine.findings_sound`).
-/

namespace Locution

open Text

/-- Whether a finding is true to a sentence. -/
structure Finding.Sound (sentence : String) (finding : Finding) : Prop where
  matched : finding.matched = true →
    finding.start < finding.stop ∧ finding.stop ≤ sentence.toList.length ∧
      finding.text.toList = slice sentence.toList finding.start finding.stop ∧
      finding.error = none ∧ (finding.tier = .pattern ∨ finding.tier = .semantic)
  unmatched : finding.matched = false →
    finding.start = 0 ∧ finding.stop = 0 ∧ finding.text = "" ∧
      (finding.tier = .semantic ∨ finding.tier = .neither)

namespace Finding

variable {sentence : String} {tier : Tier}

/-- A match between characters of a sentence is sound. -/
theorem sound_ofBytes {start stop : Nat} (covers : Covers sentence.toList start stop)
    (found : tier = .pattern ∨ tier = .semantic) :
    (ofBytes sentence start stop tier).Sound sentence := by
  obtain ⟨first, last, filled, within, rfl, rfl⟩ := covers
  have range := charRange?_byteLength_take (Nat.le_of_lt filled) within
  refine ⟨fun _ => ?_, fun missed => Bool.noConfusion missed⟩
  simp only [ofBytes, range, Option.getD_some, String.toList_ofList, true_and]
  exact ⟨filled, within, found⟩

/-- A finding without a match is sound, with an error or without one. -/
theorem sound_of_unmatched (missed : tier = .semantic ∨ tier = .neither) (error : Option String) :
    ({ unmatched tier with error := error } : Finding).Sound sentence :=
  ⟨fun matched => Bool.noConfusion matched, fun _ => ⟨rfl, rfl, rfl, missed⟩⟩

end Finding

/-- A span that is found begins and ends between characters of the sentence, and is not empty. -/
theorem Idiom.covers_of_find [SearchSize] {expression : String} {sentence : List Char} {span : Span}
    (found : (ofStandard expression).find sentence = .ok (some span)) :
    Covers sentence span.start span.stop := by
  obtain ⟨before, texts, after, split, realized, rfl, _⟩ := found_of_find found
  have filled : (ofStandard expression).pattern ≠ [] := by
    intro nothing
    rw [find_eq, isEmpty, nothing] at found
    cases found
  have characters : texts.flatten ≠ [] := by
    rw [ofStandard, pattern_ofExpression] at filled
    have solid := solid_pattern_ofExpression standardRules expression
    rw [pattern_ofExpression] at solid
    exact (realizedBy_closingPieces_iff.mpr realized).flatten_ne_nil solid filled
  have positive : 0 < texts.flatten.length := List.length_pos_of_ne_nil characters
  refine ⟨before.length, (before ++ texts.flatten).length, ?_, ?_, ?_, ?_⟩
  · rw [List.length_append]
    exact Nat.lt_add_of_pos_right positive
  · rw [split]
    exact (List.prefix_append _ _).length_le
  · rw [split, List.append_assoc, List.take_left]
  · rw [split, List.take_left]

namespace Reply

variable {reply : Reply} {sentence : String} {start stop : Nat}

/-- A claimed range begins and ends between characters of the sentence, and is not empty. -/
theorem covers_of_claimedRange?
    (claimed : reply.claimedRange? sentence.toList = some (start, stop)) :
    Covers sentence.toList start stop := by
  obtain ⟨first, _, rest⟩ := Option.bind_eq_some_iff.mp claimed
  obtain ⟨last, _, range⟩ := Option.bind_eq_some_iff.mp rest
  exact covers_of_byteRange? range

/-- The bytes at which a claimed text is found cover characters of the sentence. -/
theorem covers_of_searchedRange? [SearchSize]
    (searched : reply.searchedRange? sentence.toList = some (start, stop)) :
    Covers sentence.toList start stop := by
  dsimp only [searchedRange?] at searched
  split at searched
  · cases searched
  · split at searched
    · obtain ⟨first, _, range⟩ := Option.bind_eq_some_iff.mp searched
      exact covers_of_byteRange? range
    · cases searched

/-- A reply is accepted with the claimed range. -/
theorem claimedRange?_of_accepted [SearchSize]
    (accepted : reply.judge sentence = .accepted start stop) :
    reply.claimedRange? sentence.toList = some (start, stop) := by
  unfold judge at accepted
  split at accepted
  · cases accepted
  · split at accepted
    · rename_i first last claimed
      obtain ⟨rfl, rfl⟩ := Verdict.accepted.inj accepted
      exact (Option.filter_eq_some_iff.mp claimed).1
    · split at accepted <;> cases accepted

/-- A reply is repaired to the bytes at which its text is found. -/
theorem searchedRange?_of_repaired [SearchSize]
    (repaired : reply.judge sentence = .repaired start stop) :
    reply.searchedRange? sentence.toList = some (start, stop) := by
  unfold judge at repaired
  split at repaired
  · cases repaired
  · split at repaired
    · cases repaired
    · split at repaired
      · rename_i first last searched
        obtain ⟨rfl, rfl⟩ := Verdict.repaired.inj repaired
        exact searched
      · cases repaired

end Reply

/-- Whatever comes of asking, the finding is sound. -/
theorem Arbiter.sound_settle [SearchSize] (expression sentence : String)
    (heard : Except Failure Reply) :
    (settle expression sentence heard).1.Sound sentence := by
  unfold settle
  split
  · exact Finding.sound_of_unmatched (.inl rfl) _
  · split
    · rename_i accepted
      exact Finding.sound_ofBytes
        (Reply.covers_of_claimedRange? (Reply.claimedRange?_of_accepted accepted)) (.inr rfl)
    · rename_i repaired
      exact Finding.sound_ofBytes
        (Reply.covers_of_searchedRange? (Reply.searchedRange?_of_repaired repaired)) (.inr rfl)
    · exact Finding.sound_of_unmatched (.inl rfl) none
    · exact Finding.sound_of_unmatched (.inl rfl) _

/-- What the pattern tier finds is sound. -/
theorem Request.sound_of_hit? [SearchSize] {request : Request} {finding : Finding}
    (hit : request.hit? = some finding) : finding.Sound request.sentence := by
  obtain ⟨span, found, rfl⟩ := Request.hit?_eq_some hit
  exact Finding.sound_ofBytes (Idiom.covers_of_find found) (.inl rfl)

namespace Engine

variable [SearchSize] {σ : Type} (engine : Engine σ) (fallback : Bool)

/-- Whatever the source remembers, the answer to a request is sound. -/
theorem sound_answer (request : Request) (memory : σ) :
    (engine.answer fallback request memory).Sound request.sentence := by
  unfold answer
  split
  · exact Finding.sound_of_unmatched (.inr rfl) _
  · cases hit : request.hit? with
    | some finding => exact Request.sound_of_hit? hit
    | none =>
        rw [Option.getD_none]
        unfold answerAfterMiss
        split
        · exact Arbiter.sound_settle _ _ _
        · exact Finding.sound_of_unmatched (.inr rfl) none

/-- **Whatever is found is sound.** -/
theorem sound_find {request : Request} {desk : Desk σ} {finding : Finding}
    (found : (engine.find fallback request desk).1 = .ok finding) :
    finding.Sound request.sentence := by
  rw [← engine.answer_of_find fallback request found]
  exact engine.sound_answer fallback request desk.memory

/-- The findings of a batch are sound, and so are those that are reported. -/
theorem sound_runBatch (pace : Pace) (requests : List Request) (desk : Desk σ) :
    List.Forall₂ (fun request finding => finding.Sound request.sentence) requests
        (engine.runBatch fallback pace requests desk).1.findings ∧
      ∀ index finding, (index, finding) ∈ (engine.runBatch fallback pace requests desk).1.reports →
        ∃ request, requests[index]? = some request ∧ finding.Sound request.sentence := by
  have answers := engine.answers_runBatch fallback requests desk pace
  have sound : List.Forall₂ (fun request finding => Finding.Sound request.sentence finding) requests
      (engine.runBatch fallback pace requests desk).1.findings := by
    apply answers.findings.imp
    rintro request finding ⟨memory, rfl⟩
    exact engine.sound_answer fallback request memory
  refine ⟨sound, fun index finding reported => ?_⟩
  have there := mem_mapIdx_mk.mp (answers.reports.mem_iff.mp reported)
  have pair := rel_getElem? sound index
  rw [there] at pair
  generalize requests[index]? = request? at pair
  cases pair with
  | some sound => exact ⟨_, rfl, sound⟩

/-- **Each record of a scan has the sentence of its place and a sound finding.** -/
theorem sound_scan (pace : Pace) (corpus : Corpus) (desk : Desk σ) :
    List.Forall₂ (fun sample record =>
        record.text = sample.request.sentence ∧ record.finding.Sound record.text)
      corpus.samples (engine.scan fallback pace corpus desk).1 := by
  apply (engine.forall₂_scan fallback pace corpus desk).imp
  rintro sample record ⟨memory, rfl⟩
  exact ⟨rfl, engine.sound_answer fallback sample.request memory⟩

/-- **Every finding is true to its sentence.** Whatever the semantic source does and however long it
takes, what comes of finding, of the pattern tier, of an arbiter, of a batch and of a scan is sound.
The ranges of bytes on the way, of spans that are found and of the places that replies claim or that
are searched for them, begin and end between characters of the sentence and are not empty. -/
theorem findings_sound (desk : Desk σ) :
    (∀ request finding, (engine.find fallback request desk).1 = .ok finding →
      finding.Sound request.sentence) ∧
    (∀ request finding, (engine.tryPattern request desk).1 = some finding →
      finding.Sound request.sentence) ∧
    (∀ (arbiter : Arbiter σ) (expression sentence : String),
      (arbiter.resolve expression sentence desk).1.Sound sentence) ∧
    (∀ pace requests,
      List.Forall₂ (fun request finding => finding.Sound request.sentence) requests
          (engine.runBatch fallback pace requests desk).1.findings ∧
        ∀ index finding,
          (index, finding) ∈ (engine.runBatch fallback pace requests desk).1.reports →
          ∃ request, requests[index]? = some request ∧ finding.Sound request.sentence) ∧
    (∀ pace corpus,
      List.Forall₂ (fun sample record =>
          record.text = sample.request.sentence ∧ record.finding.Sound record.text)
        corpus.samples (engine.scan fallback pace corpus desk).1) ∧
    (∀ expression sentence span, (Idiom.ofStandard expression).find sentence = .ok (some span) →
      Covers sentence span.start span.stop) ∧
    ∀ (reply : Reply) (sentence : String) (start stop : Nat),
      reply.claimedRange? sentence.toList = some (start, stop) ∨
        reply.searchedRange? sentence.toList = some (start, stop) →
      Covers sentence.toList start stop := by
  refine ⟨fun request finding found => engine.sound_find fallback found, ?_, ?_,
    fun pace requests => engine.sound_runBatch fallback pace requests desk,
    fun pace corpus => engine.sound_scan fallback pace corpus desk,
    fun expression sentence span found => Idiom.covers_of_find found, ?_⟩
  · intro request finding found
    have tier := patternTier_fst request
    rw [tryPattern] at found
    exact Request.sound_of_hit? (tier.symm.trans found)
  · intro arbiter expression sentence
    rw [Arbiter.resolve_fst]
    exact Arbiter.sound_settle expression sentence _
  · rintro reply sentence start stop (claimed | searched)
    · exact Reply.covers_of_claimedRange? claimed
    · exact Reply.covers_of_searchedRange? searched

end Engine

end Locution
