import Mathlib.Data.List.Nodup
import Locution.Proofs.Batch.Stages

/-! # Turns of helpers

Whatever turns the helpers of a batch take, some facts hold (`Bench.Sound`): the items keep their
requests, an item is settled by an answer of the engine to its request, the reports are those of the
reported items, once each, and the source was asked once for every settled item that calls for it.
One turn keeps these facts (`Bench.Sound.turn`), so any turns keep them (`Bench.Sound.turns`). A
turn of an item that is not reported brings it further (`Engine.rank_turn`), so the closing turns
bring every item to its end (`Engine.done_closingTurns`), and its own turns ask for it once or not
at all (`Engine.callsBy_closingTurns`).
-/

namespace Locution

namespace Engine

variable [SearchSize] {σ : Type} (engine : Engine σ) (fallback : Bool)

/-- The item in its next stage, when the source remembers `memory`. -/
def nextItem (memory : σ) (item : BatchItem) : BatchItem :=
  { item with stage := engine.nextStage fallback item.request memory item.stage }

variable {bench : Bench σ} {index : Nat} {item : BatchItem}

/-- A turn changes nothing but the item that takes it, which goes one stage further. -/
theorem items_turn (found : bench.items[index]? = some item) :
    (engine.turn fallback bench index).items =
      bench.items.set index (engine.nextItem fallback bench.desk.memory item) := by
  rw [turn, found, nextItem, ← advance_fst]

/-- A turn sends what the stage of its item has to report, and nothing else. -/
theorem reports_turn (found : bench.items[index]? = some item) :
    (engine.turn fallback bench index).reports = bench.reports ++ item.stage.report index := by
  rw [turn, found]

/-- A turn asks as often as the stage of its item asks for. -/
theorem calls_turn (found : bench.items[index]? = some item) :
    (engine.turn fallback bench index).desk.calls =
      bench.desk.calls + engine.callsNext fallback item.stage := by
  rw [turn, found]
  exact engine.calls_advance fallback item.request item.stage bench.desk

/-- A turn brings its own item to the next stage. -/
theorem getElem?_turn_self (found : bench.items[index]? = some item) :
    (engine.turn fallback bench index).items[index]? =
      some (engine.nextItem fallback bench.desk.memory item) := by
  rw [engine.items_turn fallback found]
  exact List.getElem?_set_self (List.getElem?_eq_some_iff.mp found).1

theorem getElem?_turn_ne {place : Nat} (apart : index ≠ place) :
    (engine.turn fallback bench index).items[place]? = bench.items[place]? := by
  cases found : bench.items[index]? with
  | none => rw [turn, found]
  | some item => rw [engine.items_turn fallback found, List.getElem?_set_ne apart]

end Engine

/-- Putting an element in the place of another one changes a count by their difference. -/
theorem countP_set_add {α : Type} (test : α → Bool) {items : List α} {index : Nat} {old : α}
    (found : items[index]? = some old) (new : α) :
    (items.set index new).countP test + (if test old then 1 else 0) =
      items.countP test + if test new then 1 else 0 := by
  induction items generalizing index with
  | nil => cases found
  | cons item items ih =>
      cases index with
      | zero =>
          obtain rfl := Option.some.inj found
          rw [List.set_cons_zero, List.countP_cons, List.countP_cons, Nat.add_right_comm]
      | succ index =>
          have rest := @ih index found
          rw [List.set_cons_succ, List.countP_cons, List.countP_cons, Nat.add_right_comm, rest,
            Nat.add_right_comm]

theorem set_of_getElem? {α : Type} {items : List α} {index : Nat} {item : α}
    (found : items[index]? = some item) : items.set index item = items := by
  obtain ⟨within, rfl⟩ := List.getElem?_eq_some_iff.mp found
  exact List.set_getElem_self within

namespace Bench

variable [SearchSize] {σ : Type} {engine : Engine σ} {fallback : Bool} {requests : List Request}
  {calls : Nat} {bench : Bench σ}

/-- How often the source was asked about the items of a batch. -/
def callsMade (engine : Engine σ) (fallback : Bool) (bench : Bench σ) : Nat :=
  bench.items.countP fun item => engine.asked fallback item.request item.stage

/-- What holds of a batch whatever turns its items took. The requests are those that it began with,
and `calls` is how often the source was asked before. -/
structure Sound (engine : Engine σ) (fallback : Bool) (requests : List Request) (calls : Nat)
    (bench : Bench σ) : Prop where
  requests : bench.items.map (·.request) = requests
  fits : ∀ item ∈ bench.items, item.stage.Fits engine fallback item.request
  reported : ∀ index finding, (index, finding) ∈ bench.reports ↔
    ∃ item, bench.items[index]? = some item ∧ item.stage.finding? = some finding
  once : bench.reports.Nodup
  calls : bench.desk.calls = calls + bench.callsMade engine fallback

/-- A bench on which nothing was done yet is sound. -/
theorem sound_ofRequests (engine : Engine σ) (fallback : Bool) (requests : List Request)
    (desk : Desk σ) : (ofRequests requests desk).Sound engine fallback requests desk.calls where
  requests := by
    simp only [ofRequests, List.map_map, Function.comp_def, List.map_id']
  fits := by
    intro item member
    obtain ⟨request, _, rfl⟩ := List.mem_map.mp member
    trivial
  reported := by
    intro index finding
    refine iff_of_false List.not_mem_nil ?_
    rintro ⟨item, found, done⟩
    obtain ⟨request, _, rfl⟩ := List.mem_map.mp (List.mem_of_getElem? found)
    cases done
  once := List.nodup_nil
  calls := by
    simp only [callsMade, ofRequests, List.countP_map, Function.comp_def, Engine.asked,
      Stage.isSettled, Bool.and_false, List.countP_false, Function.const_apply, Nat.add_zero]

section Turn

variable {index : Nat} {item : BatchItem}

/-- A turn does not change which requests are worked on. -/
theorem Sound.requests_turn (sound : bench.Sound engine fallback requests calls)
    (found : bench.items[index]? = some item) :
    (engine.turn fallback bench index).items.map (·.request) = requests := by
  have same : (bench.items.map (·.request))[index]? = some item.request := by
    rw [List.getElem?_map, found, Option.map_some]
  rw [engine.items_turn fallback found, List.map_set, Engine.nextItem, set_of_getElem? same,
    sound.requests]

/-- Behind a turn each item is at a stage that fits its request. -/
theorem Sound.fits_turn (sound : bench.Sound engine fallback requests calls)
    (found : bench.items[index]? = some item) :
    ∀ other ∈ (engine.turn fallback bench index).items,
      other.stage.Fits engine fallback other.request := by
  intro other member
  rw [engine.items_turn fallback found] at member
  rcases List.mem_or_eq_of_mem_set member with old | rfl
  · exact sound.fits other old
  · have fits := sound.fits item (List.mem_of_getElem? found)
    exact engine.fits_nextStage fallback item.request fits bench.desk.memory

/-- A turn reports an item exactly when it brings the item to its end. -/
theorem Sound.reported_turn (sound : bench.Sound engine fallback requests calls)
    (found : bench.items[index]? = some item) (other : Nat) (finding : Finding) :
    (other, finding) ∈ (engine.turn fallback bench index).reports ↔
      ∃ moved, (engine.turn fallback bench index).items[other]? = some moved ∧
        moved.stage.finding? = some finding := by
  rw [engine.reports_turn fallback found, List.mem_append, sound.reported, Stage.mem_report_iff]
  by_cases same : other = index
  · subst same
    rw [engine.getElem?_turn_self fallback found, found]
    simp only [Option.some.injEq, exists_eq_left', true_and, Engine.nextItem,
      Engine.finding?_nextStage]
  · rw [engine.getElem?_turn_ne fallback (Ne.symm same)]
    simp only [same, false_and, or_false]

/-- An item that a turn reports was not reported before. -/
theorem Sound.once_turn (sound : bench.Sound engine fallback requests calls)
    (found : bench.items[index]? = some item) :
    (engine.turn fallback bench index).reports.Nodup := by
  rw [engine.reports_turn fallback found]
  refine List.nodup_append'.mpr ⟨sound.once, ?_, ?_⟩
  · cases item.stage with
    | settled finding => exact List.nodup_singleton _
    | _ => exact List.nodup_nil
  · rintro ⟨other, finding⟩ before now
    obtain ⟨rfl, settled⟩ := (Stage.mem_report_iff _ _ _ _).mp now
    obtain ⟨same, foundAgain, done⟩ := (sound.reported _ _).mp before
    obtain rfl := Option.some.inj (found.symm.trans foundAgain)
    rw [settled] at done
    cases done

/-- A turn asks as often as the count over the items changes. -/
theorem Sound.calls_turn (sound : bench.Sound engine fallback requests calls)
    (found : bench.items[index]? = some item) :
    (engine.turn fallback bench index).desk.calls =
      calls + (engine.turn fallback bench index).callsMade engine fallback := by
  have fits := sound.fits item (List.mem_of_getElem? found)
  have asked := engine.callsNext_add_callsFor fallback item.request fits bench.desk.memory
  have before := sound.calls
  have moved : (engine.turn fallback bench index).callsMade engine fallback +
      engine.callsFor fallback item.request item.stage =
        bench.callsMade engine fallback + engine.callsFor fallback item.request
          (engine.nextStage fallback item.request bench.desk.memory item.stage) := by
    rw [callsMade, engine.items_turn fallback found]
    exact countP_set_add _ found _
  rw [engine.calls_turn fallback found]
  omega

end Turn

/-- **A turn keeps the facts.** -/
theorem Sound.turn (sound : bench.Sound engine fallback requests calls) (index : Nat) :
    (engine.turn fallback bench index).Sound engine fallback requests calls := by
  cases found : bench.items[index]? with
  | none =>
      rw [Engine.turn, found]
      exact sound
  | some item =>
      exact ⟨sound.requests_turn found, sound.fits_turn found, sound.reported_turn found,
        sound.once_turn found, sound.calls_turn found⟩

/-- **Any turns keep the facts.** -/
theorem Sound.turns (sound : bench.Sound engine fallback requests calls) (turns : List Nat) :
    (turns.foldl (engine.turn fallback) bench).Sound engine fallback requests calls := by
  induction turns generalizing bench with
  | nil => exact sound
  | cons index turns ih => exact ih (sound.turn index)

end Bench

namespace Engine

variable [SearchSize] {σ : Type} (engine : Engine σ) (fallback : Bool)

/-- How often the source is asked in the turns of one item. -/
def callsBy (place : Nat) : List Nat → Bench σ → Nat
  | [], _ => 0
  | index :: turns, bench =>
    let next := engine.turn fallback bench index
    (if index = place then next.desk.calls - bench.desk.calls else 0) + callsBy place turns next

/-- The turns of an item ask for it as often as its stage says. -/
theorem callsBy_add_callsFor {requests : List Request} {calls : Nat} {bench : Bench σ}
    (sound : bench.Sound engine fallback requests calls) {place : Nat} {item : BatchItem}
    (found : bench.items[place]? = some item) (turns : List Nat) :
    ∃ moved, (turns.foldl (engine.turn fallback) bench).items[place]? = some moved ∧
      moved.request = item.request ∧
      engine.callsBy fallback place turns bench + engine.callsFor fallback item.request item.stage =
        engine.callsFor fallback item.request moved.stage := by
  induction turns generalizing bench item with
  | nil => exact ⟨item, found, rfl, Nat.zero_add _⟩
  | cons index turns ih =>
      by_cases same : index = place
      · subst same
        have fits := sound.fits item (List.mem_of_getElem? found)
        have asked := engine.callsNext_add_callsFor fallback item.request fits bench.desk.memory
        obtain ⟨moved, foundMoved, request, total⟩ :=
          ih (sound.turn index) (engine.getElem?_turn_self fallback found)
        refine ⟨moved, foundMoved, request, ?_⟩
        simp only [Engine.nextItem] at total
        rw [callsBy, if_pos rfl, engine.calls_turn fallback found, Nat.add_sub_cancel_left, ← total,
          ← asked]
        omega
      · obtain ⟨moved, foundMoved, request, total⟩ :=
          ih (sound.turn index) ((engine.getElem?_turn_ne fallback same).trans found)
        refine ⟨moved, foundMoved, request, ?_⟩
        rw [callsBy, if_neg same, Nat.zero_add, total]

/-- A turn takes an item further when it is the item's own, and leaves it where it is otherwise. -/
theorem rank_turn {bench : Bench σ} {place : Nat} {item : BatchItem}
    (found : bench.items[place]? = some item) (index : Nat) :
    ∃ moved, (engine.turn fallback bench index).items[place]? = some moved ∧
      min 3 (item.stage.rank + [index].count place) ≤ moved.stage.rank := by
  by_cases same : index = place
  · subst same
    rw [List.count_singleton_self]
    exact ⟨_, engine.getElem?_turn_self fallback found, engine.rank_nextStage fallback _ _ _⟩
  · refine ⟨item, (engine.getElem?_turn_ne fallback same).trans found, ?_⟩
    rw [List.count_singleton, beq_eq_false_iff_ne.mpr same]
    exact Nat.min_le_right _ _

/-- An item that had three turns is reported. -/
theorem rank_turns {bench : Bench σ} {place : Nat} {item : BatchItem}
    (found : bench.items[place]? = some item) (turns : List Nat) :
    ∃ moved, (turns.foldl (engine.turn fallback) bench).items[place]? = some moved ∧
      min 3 (item.stage.rank + turns.count place) ≤ moved.stage.rank := by
  induction turns generalizing bench item with
  | nil => exact ⟨item, found, Nat.min_le_right _ _⟩
  | cons index turns ih =>
      obtain ⟨next, foundNext, stepped⟩ := engine.rank_turn fallback found index
      obtain ⟨moved, foundMoved, further⟩ := ih foundNext
      refine ⟨moved, foundMoved, ?_⟩
      have total : ([index] ++ turns).count place = [index].count place + turns.count place :=
        List.count_append
      rw [List.singleton_append] at total
      omega

end Engine

/-- Every item of a batch has three of the closing turns. -/
theorem count_closingTurns {place count : Nat} (within : place < count) :
    turnsPerItem ≤ (closingTurns count).count place := by
  induction count with
  | zero => cases within
  | succ count ih =>
      have split : closingTurns (count + 1) =
          closingTurns count ++ List.replicate turnsPerItem count := by
        simp only [closingTurns, List.range_succ, List.flatMap_append, List.flatMap_cons,
          List.flatMap_nil, List.append_nil]
      rw [split, List.count_append]
      rcases Nat.lt_succ_iff_lt_or_eq.mp within with earlier | rfl
      · exact Nat.le_trans (ih earlier) (Nat.le_add_right _ _)
      · rw [List.count_replicate_self]
        exact Nat.le_add_left _ _

/-- The last stage is that of an item whose finding was reported. -/
theorem Stage.exists_reported {stage : Stage} (last : 3 ≤ stage.rank) :
    ∃ finding, stage = .reported finding := by
  cases stage with
  | reported finding => exact ⟨finding, rfl⟩
  | _ => contradiction

/-- Whether every item of a batch is reported. -/
def Bench.Done {σ : Type} (bench : Bench σ) : Prop :=
  ∀ item ∈ bench.items, ∃ finding, item.stage = .reported finding

/-- The closing turns bring every item of a batch to its end. -/
theorem Engine.done_closingTurns [SearchSize] {σ : Type} (engine : Engine σ) (fallback : Bool)
    (turns : List Nat) (requests : List Request) (desk : Desk σ) :
    ((turns ++ closingTurns requests.length).foldl (engine.turn fallback)
      (Bench.ofRequests requests desk)).Done := by
  intro item member
  obtain ⟨place, found⟩ := List.mem_iff_getElem?.mp member
  have sound := (Bench.sound_ofRequests engine fallback requests desk).turns
    (turns ++ closingTurns requests.length)
  have within : place < requests.length := by
    rw [← sound.requests, List.length_map]
    exact (List.getElem?_eq_some_iff.mp found).1
  have begun : (Bench.ofRequests requests desk).items[place]? =
      some ⟨requests[place], .waiting⟩ := by
    rw [Bench.ofRequests, List.getElem?_map, List.getElem?_eq_getElem within, Option.map_some]
  obtain ⟨moved, foundMoved, further⟩ :=
    engine.rank_turns fallback begun (turns ++ closingTurns requests.length)
  obtain rfl := Option.some.inj (found.symm.trans foundMoved)
  have closing : 3 ≤ (closingTurns requests.length).count place := count_closingTurns within
  refine Stage.exists_reported (Nat.le_trans (Nat.le_min.mpr ⟨Nat.le_refl 3, ?_⟩) further)
  rw [List.count_append]
  omega

/-- The turns of an item ask once when its request calls for it, and never otherwise. -/
theorem Engine.callsBy_closingTurns [SearchSize] {σ : Type} (engine : Engine σ) (fallback : Bool)
    (turns : List Nat) {requests : List Request} {place : Nat} {request : Request}
    (found : requests[place]? = some request) (desk : Desk σ) :
    engine.callsBy fallback place (turns ++ closingTurns requests.length)
        (Bench.ofRequests requests desk) = if engine.asks fallback request then 1 else 0 := by
  have begun : (Bench.ofRequests requests desk).items[place]? = some ⟨request, .waiting⟩ := by
    rw [Bench.ofRequests, List.getElem?_map, found, Option.map_some]
  obtain ⟨moved, foundMoved, _, total⟩ := engine.callsBy_add_callsFor fallback
    (Bench.sound_ofRequests engine fallback requests desk) begun
    (turns ++ closingTurns requests.length)
  obtain ⟨finding, reported⟩ := engine.done_closingTurns fallback turns requests desk moved
    (List.mem_of_getElem? foundMoved)
  simp only [callsFor, asked, reported, Stage.isSettled, Bool.and_false, Bool.and_true,
    Bool.false_eq_true, ↓reduceIte, Nat.add_zero] at total
  exact total

end Locution
