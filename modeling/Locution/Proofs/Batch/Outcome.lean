import Mathlib.Data.List.Forall2
import Locution.Proofs.Batch.Turns

/-! # What a batch comes to

One after the other or with helpers, whatever turns they take, a batch comes to an answer of the
engine for each request, in the order of the requests, and to one report of every finding
(`Engine.answers_runBatch`). The source is asked once for each request that calls for it
(`Engine.calls_runBatch`).
-/

namespace Locution

/-- Elements at one place of related lists are related. -/
theorem rel_getElem? {α β : Type} {related : α → β → Prop} {items : List α} {values : List β}
    (pairs : List.Forall₂ related items values) (index : Nat) :
    Option.Rel related items[index]? values[index]? := by
  induction pairs generalizing index with
  | nil => exact .none
  | cons pair _ ih =>
      cases index with
      | zero => exact .some pair
      | succ index => exact ih index

/-- Every element of a list is related to one of the related list. -/
theorem exists_mem_related {α β : Type} {related : α → β → Prop} {items : List α} {values : List β}
    (pairs : List.Forall₂ related items values) {value : β} (member : value ∈ values) :
    ∃ item ∈ items, related item value := by
  obtain ⟨index, there⟩ := List.mem_iff_getElem?.mp member
  have pair := rel_getElem? pairs index
  rw [there] at pair
  cases found : items[index]? with
  | none =>
      rw [found] at pair
      cases pair
  | some item =>
      rw [found] at pair
      cases pair with
      | some pair => exact ⟨item, List.mem_of_getElem? found, pair⟩

/-- What stands at a place of a list is numbered with that place. -/
theorem mem_mapIdx_mk {α : Type} {values : List α} {index : Nat} {value : α} :
    (index, value) ∈ values.mapIdx Prod.mk ↔ values[index]? = some value := by
  rw [List.mem_mapIdx, List.getElem?_eq_some_iff]
  constructor
  · rintro ⟨place, within, same⟩
    obtain ⟨rfl, rfl⟩ := Prod.mk.inj same
    exact ⟨within, rfl⟩
  · rintro ⟨within, rfl⟩
    exact ⟨index, within, rfl⟩

variable [SearchSize] {σ : Type} (engine : Engine σ) (fallback : Bool)

/-- Whether an outcome answers requests. -/
structure BatchOutcome.Answers (requests : List Request) (outcome : BatchOutcome) : Prop where
  /-- The findings are answers to the requests, in their order. -/
  findings : List.Forall₂ (fun request finding =>
    ∃ memory, finding = engine.answer fallback request memory) requests outcome.findings
  /-- Every finding is reported once, with its place. -/
  reports : outcome.reports.Perm (outcome.findings.mapIdx Prod.mk)

namespace BatchOutcome.Answers

variable {engine fallback} {before : List Request} {done : BatchOutcome}

/-- The next item is answered and reported with its place. -/
theorem runItem (answers : done.Answers engine fallback before) (request : Request)
    (desk : Desk σ) :
    (engine.runItem fallback before.length request done desk).1.Answers engine fallback
      (before ++ [request]) where
  findings :=
    List.rel_append answers.findings
      (.cons ⟨desk.memory, engine.settleItem_fst fallback request desk⟩ .nil)
  reports := by
    rw [Engine.runItem, List.mapIdx_concat, answers.findings.length_eq]
    exact answers.reports.append_right _

/-- The items after those that are done are answered and reported. -/
theorem runEach (answers : done.Answers engine fallback before) (requests : List Request)
    (desk : Desk σ) :
    (engine.runEach fallback before.length requests done desk).1.Answers engine fallback
      (before ++ requests) := by
  induction requests generalizing before done desk with
  | nil =>
      rw [List.append_nil]
      exact answers
  | cons request requests ih =>
      have others := ih (answers.runItem request desk)
        (engine.runItem fallback before.length request done desk).2
      rw [List.length_append, List.append_assoc] at others
      exact others

end BatchOutcome.Answers

namespace Engine

/-- One item after the other, the source is asked once for each request that calls for it. -/
theorem calls_runEach (index : Nat) (requests : List Request) (done : BatchOutcome)
    (desk : Desk σ) :
    (engine.runEach fallback index requests done desk).2.calls =
      desk.calls + requests.countP (engine.asks fallback) := by
  induction requests generalizing index done desk with
  | nil => rfl
  | cons request requests ih =>
      rw [runEach, ih, runItem, engine.calls_settleItem, List.countP_cons, Nat.add_assoc,
        Nat.add_comm (ite _ _ _)]

end Engine

namespace Bench

variable {engine fallback} {requests : List Request} {calls : Nat} {bench : Bench σ}

omit [SearchSize] in
/-- In a batch that is done every item is reported with its finding. -/
theorem Done.forall₂_findings (done : bench.Done) :
    List.Forall₂ (fun item finding => item.stage = .reported finding)
      bench.items bench.findings := by
  obtain ⟨items, reports, desk⟩ := bench
  induction items with
  | nil => exact .nil
  | cons item items ih =>
      obtain ⟨finding, reported⟩ := done item List.mem_cons_self
      have rest := ih fun other member => done other (List.mem_cons_of_mem item member)
      have found : item.stage.finding? = some finding := by rw [reported, Stage.finding?]
      simp only [findings, List.filterMap_cons, found]
      exact .cons reported rest

/-- In a batch that is done the findings answer the requests. -/
theorem Sound.forall₂_findings (sound : bench.Sound engine fallback requests calls)
    (done : bench.Done) :
    List.Forall₂ (fun request finding => ∃ memory, finding = engine.answer fallback request memory)
      requests bench.findings := by
  rw [← sound.requests, List.forall₂_map_left_iff]
  apply ((List.forall₂_and_left _ _).mpr ⟨sound.fits, done.forall₂_findings⟩).imp
  rintro item finding ⟨fits, reported⟩
  rw [reported] at fits
  exact fits

/-- A batch that is done has sent one report for each finding, in whatever order. -/
theorem Sound.perm_reports (sound : bench.Sound engine fallback requests calls)
    (done : bench.Done) : bench.reports.Perm (bench.findings.mapIdx Prod.mk) := by
  have distinct : (bench.findings.mapIdx Prod.mk).Nodup := by
    apply List.pairwise_iff_getElem.mpr
    intro first second _ _ earlier same
    rw [List.getElem_mapIdx, List.getElem_mapIdx] at same
    exact Nat.ne_of_lt earlier (Prod.mk.inj same).1
  apply (List.perm_ext_iff_of_nodup sound.once distinct).mpr
  rintro ⟨index, finding⟩
  have there := rel_getElem? done.forall₂_findings index
  rw [sound.reported, mem_mapIdx_mk]
  generalize bench.items[index]? = item?, bench.findings[index]? = finding? at there
  cases there with
  | none => simp only [reduceCtorEq, false_and, exists_false]
  | some reported =>
      simp only [Option.some.injEq, exists_eq_left', reported, Stage.finding?]

/-- In a batch that is done the source was asked once for each request that calls for it. -/
theorem Sound.callsMade_eq_countP (sound : bench.Sound engine fallback requests calls)
    (done : bench.Done) :
    bench.callsMade engine fallback = requests.countP (engine.asks fallback) := by
  rw [← sound.requests, List.countP_map]
  apply List.countP_congr
  intro item member
  obtain ⟨finding, reported⟩ := done item member
  rw [Engine.asked, reported, Stage.isSettled, Bool.and_true, Function.comp_apply]

end Bench

namespace Engine

variable (requests : List Request) (desk : Desk σ)

/-- **A batch answers its requests**, one after the other or with helpers, whatever turns they
take. -/
theorem answers_runBatch (pace : Pace) :
    (engine.runBatch fallback pace requests desk).1.Answers engine fallback requests := by
  cases pace with
  | sequential =>
      have nothing : BatchOutcome.Answers engine fallback [] ⟨[], []⟩ := ⟨.nil, .nil⟩
      exact nothing.runEach requests desk
  | parallel turns =>
      have sound := (Bench.sound_ofRequests engine fallback requests
        { desk with journal := [] }).turns (turns ++ closingTurns requests.length)
      have done := engine.done_closingTurns fallback turns requests { desk with journal := [] }
      exact ⟨sound.forall₂_findings done, sound.perm_reports done⟩

/-- **A batch asks once for each request that calls for it.** -/
theorem calls_runBatch (pace : Pace) :
    (engine.runBatch fallback pace requests desk).2.calls =
      desk.calls + requests.countP (engine.asks fallback) := by
  cases pace with
  | sequential => exact engine.calls_runEach fallback 0 requests _ desk
  | parallel turns =>
      have sound := (Bench.sound_ofRequests engine fallback requests
        { desk with journal := [] }).turns (turns ++ closingTurns requests.length)
      have done := engine.done_closingTurns fallback turns requests { desk with journal := [] }
      have calls := sound.calls
      rw [sound.callsMade_eq_countP done] at calls
      exact calls

end Engine

end Locution
