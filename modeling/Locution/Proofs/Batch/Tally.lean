import Mathlib.Data.List.Count
import Locution.Batch.Tally
import Locution.Proofs.Soundness

/-! # The counts of a batch

A tally holds the number of findings, of those that match, and of those of each tier
(`Tally.ofFindings_eq`), so the tally of two lists one behind the other is the sum of their tallies
(`Tally.ofFindings_append`). The tiers share out the findings of any list. That the other counts fit
together is a fact about what engines find, not about counting: the pattern tier settles a request
only with a match, and a request that no tier settled does not match
(`Finding.Sound.matched_of_pattern`, `Finding.Sound.unmatched_of_neither`). So for the findings of a
batch the matches are those of the pattern tier and some of the semantic tier
(`Engine.tally_runBatch_fits`).
-/

namespace Locution

namespace Finding

/-- Whether a finding is a match of the semantic tier. -/
def isSemanticMatch (finding : Finding) : Bool :=
  finding.matched && finding.tier = .semantic

variable {sentence : String} {finding : Finding}

/-- A sound finding of the pattern tier is a match. -/
theorem Sound.matched_of_pattern (sound : finding.Sound sentence)
    (settled : finding.tier = .pattern) : finding.matched = true := by
  by_contra missed
  obtain ⟨_, _, _, tier⟩ := sound.unmatched (Bool.eq_false_iff.mpr missed)
  rw [settled] at tier
  rcases tier with impossible | impossible <;> cases impossible

/-- A sound finding that was settled by neither tier is no match. -/
theorem Sound.unmatched_of_neither (sound : finding.Sound sentence)
    (unsettled : finding.tier = .neither) : finding.matched = false := by
  rw [Bool.eq_false_iff]
  intro matched
  obtain ⟨_, _, _, _, tier⟩ := sound.matched matched
  rw [unsettled] at tier
  rcases tier with impossible | impossible <;> cases impossible

end Finding

namespace Tally

/-- The sum of two tallies, count by count. -/
instance : Add Tally where
  add first second :=
    { total := first.total + second.total
      matched := first.matched + second.matched
      pattern := first.pattern + second.pattern
      semantic := first.semantic + second.semantic
      neither := first.neither + second.neither }

theorem mk_add_mk (total matched pattern semantic neither : Nat) (tally : Tally) :
    tally + ⟨total, matched, pattern, semantic, neither⟩ =
      ⟨tally.total + total, tally.matched + matched, tally.pattern + pattern,
        tally.semantic + semantic, tally.neither + neither⟩ :=
  rfl

variable (findings : List Finding)

/-- Counting goes on from any tally with the numbers of findings of each kind. -/
theorem foldl_count (tally : Tally) :
    findings.foldl count tally =
      tally + ⟨findings.length, findings.countP (·.matched), findings.countP (·.tier = .pattern),
        findings.countP (·.tier = .semantic), findings.countP (·.tier = .neither)⟩ := by
  induction findings generalizing tally with
  | nil => rfl
  | cons finding findings ih =>
      have more (holds : Prop) [Decidable holds] (before rest : Nat) :
          (if holds then before + 1 else before) + rest =
            before + (rest + if holds then 1 else 0) := by
        split <;> omega
      rw [List.foldl_cons, ih]
      simp only [mk_add_mk, count, List.countP_cons, List.length_cons, decide_eq_true_eq, more,
        Nat.add_assoc, Nat.add_comm 1]

/-- Each number of a tally is a count over the findings. -/
theorem ofFindings_eq :
    ofFindings findings =
      ⟨findings.length, findings.countP (·.matched), findings.countP (·.tier = .pattern),
        findings.countP (·.tier = .semantic), findings.countP (·.tier = .neither)⟩ := by
  rw [ofFindings, foldl_count, mk_add_mk, zero]
  simp only [Nat.zero_add]

/-- The tally of two lists of findings is the sum of their tallies. -/
theorem ofFindings_append (first second : List Finding) :
    ofFindings (first ++ second) = ofFindings first + ofFindings second := by
  rw [ofFindings_eq, ofFindings_eq, ofFindings_eq, mk_add_mk]
  simp only [List.length_append, List.countP_append]

/-- The counts tell whether every finding matches. -/
theorem allMatched_ofFindings : (ofFindings findings).allMatched = findings.all (·.matched) := by
  rw [allMatched, ofFindings_eq, Bool.eq_iff_iff, beq_iff_eq, List.countP_eq_length,
    List.all_eq_true]

/-- The tiers share out the findings. -/
theorem tiers_ofFindings :
    (ofFindings findings).pattern + (ofFindings findings).semantic + (ofFindings findings).neither =
      (ofFindings findings).total := by
  rw [ofFindings_eq]
  dsimp only
  induction findings with
  | nil => rfl
  | cons finding findings ih =>
      simp only [List.countP_cons, List.length_cons, decide_eq_true_eq]
      cases finding.tier <;> simp only [reduceCtorEq, ↓reduceIte] <;> omega

end Tally

/-- Sound findings match by the pattern tier or by the semantic tier, and all of the pattern tier
match. -/
theorem Finding.countP_matched {findings : List Finding}
    (sound : ∀ finding ∈ findings, ∃ sentence, finding.Sound sentence) :
    findings.countP (·.matched) =
      findings.countP (·.tier = .pattern) + findings.countP isSemanticMatch := by
  induction findings with
  | nil => rfl
  | cons finding findings ih =>
      obtain ⟨⟨sentence, first⟩, others⟩ := List.forall_mem_cons.mp sound
      have rest := ih others
      simp only [List.countP_cons, decide_eq_true_eq, isSemanticMatch, Bool.and_eq_true]
      cases tier : finding.tier with
      | pattern =>
          simp only [first.matched_of_pattern tier, reduceCtorEq, and_false, ↓reduceIte]
          omega
      | semantic =>
          simp only [reduceCtorEq, and_true, ↓reduceIte]
          omega
      | neither =>
          simp only [first.unmatched_of_neither tier, reduceCtorEq, and_false, ↓reduceIte]
          omega

namespace Engine

variable [SearchSize] {σ : Type} (engine : Engine σ) (fallback : Bool) (pace : Pace)
  (requests : List Request) (desk : Desk σ)

/-- Every finding of a batch is sound for the sentence of some request. -/
theorem exists_sound_of_mem_findings :
    ∀ finding ∈ (engine.runBatch fallback pace requests desk).1.findings,
      ∃ sentence, finding.Sound sentence := by
  intro finding member
  obtain ⟨request, _, sound⟩ :=
    exists_mem_related (engine.sound_runBatch fallback pace requests desk).1 member
  exact ⟨request.sentence, sound⟩

/-- **The counts of a batch fit together.** Whatever the semantic source does, the tally of the
findings of a batch counts every request once. The tiers share out the findings. Those of the
pattern tier match, the other matches are of the semantic tier, and what no tier settled does not
match. The counts tell whether every finding matches, and then some tier settled each. No more
findings match than there are, and the rest of them do not. Of any two lists the tallies can be
added. -/
theorem tally_runBatch_fits :
    let findings := (engine.runBatch fallback pace requests desk).1.findings
    let tally := Tally.ofFindings findings
    tally.total = requests.length ∧
      tally.pattern + tally.semantic + tally.neither = tally.total ∧
      tally.pattern ≤ tally.matched ∧ tally.matched ≤ tally.pattern + tally.semantic ∧
      tally.matched - tally.pattern = findings.countP Finding.isSemanticMatch ∧
      (∀ finding ∈ findings, finding.tier = .neither → finding.matched = false) ∧
      (tally.allMatched = true ↔ ∀ finding ∈ findings, finding.matched = true) ∧
      (tally.allMatched = true → tally.neither = 0) ∧
      tally.matched ≤ tally.total ∧
      tally.total - tally.matched = findings.countP (!·.matched) ∧
      ∀ first second : List Finding,
        Tally.ofFindings (first ++ second) = Tally.ofFindings first + Tally.ofFindings second := by
  intro findings tally
  have sound : ∀ finding ∈ findings, ∃ sentence, finding.Sound sentence :=
    engine.exists_sound_of_mem_findings fallback pace requests desk
  have unsettled : ∀ finding ∈ findings, finding.tier = .neither → finding.matched = false := by
    intro finding member unsettled
    obtain ⟨sentence, sound⟩ := sound finding member
    exact sound.unmatched_of_neither unsettled
  have counts : tally = _ := Tally.ofFindings_eq findings
  have total : tally.total = findings.length := by rw [counts]
  have tiers : tally.pattern + tally.semantic + tally.neither = tally.total :=
    Tally.tiers_ofFindings findings
  have matching : tally.matched = tally.pattern + findings.countP Finding.isSemanticMatch := by
    rw [counts]
    exact Finding.countP_matched sound
  have among : findings.countP Finding.isSemanticMatch ≤ tally.semantic := by
    rw [counts]
    apply List.countP_mono_left
    intro finding _ found
    rw [Finding.isSemanticMatch, Bool.and_eq_true] at found
    exact found.2
  have rest : findings.length = tally.matched + findings.countP (!·.matched) := by
    rw [counts, List.length_eq_countP_add_countP (·.matched)]
    simp only [Bool.not_eq_true, Bool.decide_eq_false]
  have all : tally.allMatched = true ↔ ∀ finding ∈ findings, finding.matched = true := by
    rw [Tally.allMatched_ofFindings, List.all_eq_true]
  refine ⟨?_, tiers, by omega, by omega, by omega, unsettled, all, ?_, by omega, by omega,
    Tally.ofFindings_append⟩
  · rw [total]
    exact (engine.sound_runBatch fallback pace requests desk).1.length_eq.symm
  · intro every
    rw [counts]
    apply List.countP_eq_zero.mpr
    intro finding member neither
    have matched := all.mp every finding member
    rw [unsettled finding member (of_decide_eq_true neither)] at matched
    cases matched

end Engine

end Locution
