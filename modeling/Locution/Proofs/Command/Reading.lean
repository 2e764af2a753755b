import Mathlib.Data.List.Basic
import Locution.Command.Reading

/-! # What reading a command line keeps

The reading of a command line goes on in steps that may fail. A step keeps a relation when it leads
from related states to related states, as far as it succeeds for both (`Keeps`). A relation between
what was given that settling and choices keep (`Given.Stable`) is kept by every argument that is
met, together with what is pending (`Given.Stable.keeps_meet`). A relation that looks at the first
state only says what one reading keeps.
-/

namespace Locution.Command

section Except

variable {ε α β : Type} {first : Except ε α} {value : β}

/-- Two steps that may fail give a value exactly when both succeed, one after the other. -/
theorem bind_eq_ok {next : α → Except ε β} :
    first >>= next = .ok value ↔ ∃ middle, first = .ok middle ∧ next middle = .ok value := by
  cases first with
  | error failure =>
      exact iff_of_false (fun same => nomatch same) (fun ⟨_, same, _⟩ => nomatch same)
  | ok middle =>
      refine ⟨fun same => ⟨middle, rfl, same⟩, ?_⟩
      rintro ⟨_, ⟨⟩, same⟩
      exact same

/-- A step with a change behind it succeeds when the step does. -/
theorem map_eq_ok {f : α → β} :
    first.map f = .ok value ↔ ∃ middle, first = .ok middle ∧ f middle = value := by
  cases first with
  | error failure =>
      exact iff_of_false (fun same => nomatch same) (fun ⟨_, same, _⟩ => nomatch same)
  | ok middle =>
      refine ⟨fun same => ⟨middle, rfl, Except.ok.inj same⟩, ?_⟩
      rintro ⟨_, ⟨⟩, rfl⟩
      rfl

end Except

/-- Whether a step leads from related states to related states, as far as it succeeds for both. It
may succeed for one of two related states only: a choice that is made twice is a fault. -/
def Keeps {α : Type} (related : α → α → Prop) (step : α → Except UsageError α) : Prop :=
  ∀ ⦃first second firstNext secondNext : α⦄, related first second →
    step first = .ok firstNext → step second = .ok secondNext → related firstNext secondNext

namespace Keeps

variable {α : Type} {related : α → α → Prop}

/-- A step that always fails keeps everything. -/
theorem error (failure : UsageError) : Keeps related fun _ => .error failure :=
  fun _ _ _ _ _ stepped => nomatch stepped

/-- A step that never fails keeps what its change respects. -/
theorem ok {go : α → α} (respects : ∀ ⦃first second⦄, related first second →
    related (go first) (go second)) : Keeps related fun state => .ok (go state) := by
  intro first second firstNext secondNext alike firstStep secondStep
  obtain rfl := Except.ok.inj firstStep
  obtain rfl := Except.ok.inj secondStep
  exact respects alike

/-- Two steps that keep a relation keep it one after the other. -/
theorem bind {step next : α → Except UsageError α} (keeps : Keeps related step)
    (keepsNext : Keeps related next) : Keeps related fun state => step state >>= next := by
  intro first second firstNext secondNext alike firstStep secondStep
  obtain ⟨firstMiddle, firstMet, firstRest⟩ := bind_eq_ok.mp firstStep
  obtain ⟨secondMiddle, secondMet, secondRest⟩ := bind_eq_ok.mp secondStep
  exact keepsNext (keeps alike firstMet secondMet) firstRest secondRest

/-- Steps that keep a relation keep it one after the other. -/
theorem foldlM {γ : Type} {step : α → γ → Except UsageError α}
    (keeps : ∀ item, Keeps related (step · item)) (items : List γ) :
    Keeps related fun state => items.foldlM step state := by
  induction items with
  | nil => exact .ok fun _ _ alike => alike
  | cons item items ih => exact (keeps item).bind ih

end Keeps

/-- Whether settling what is pending and making choices keep a relation between what was given. -/
structure Given.Stable (related : Given → Given → Prop) : Prop where
  settle : ∀ pending, Keeps related (·.settle pending)
  addFlag : ∀ flag, Keeps related (·.addFlag flag)
  addVerbose : Keeps related fun given => .ok given.addVerbose

namespace Progress

variable {progress next : Progress}

/-- A reading goes on when what was pending can be settled. Then nothing is pending. -/
theorem settle_eq_ok {go : Given → Except UsageError Given} :
    progress.settle go = .ok next ↔
      ∃ settled, progress.given.settle progress.pending = .ok settled ∧
        ∃ given, go settled = .ok given ∧ next = ⟨given, .nothing, progress.met⟩ := by
  simp only [settle, bind_eq_ok, Except.ok.injEq, eq_comm (a := next)]

/-- Whether two readings have met as many operands, have the same pending, and have related choices
given. -/
structure Both (related : Given → Given → Prop) (first second : Progress) : Prop where
  given : related first.given second.given
  pending : first.pending = second.pending
  met : first.met = second.met

end Progress

namespace Given.Stable

open Progress (Both settle_eq_ok)

variable {related : Given → Given → Prop} (stable : Given.Stable related) (grammar : Grammar)

include stable

/-- Settling what is pending and going on keeps the relation. -/
theorem keeps_settle {go : Given → Except UsageError Given} (keeps : Keeps related go) :
    Keeps (Both related) (·.settle go) := by
  intro first second firstNext secondNext alike firstStep secondStep
  obtain ⟨firstSettled, firstLooked, firstGiven, firstGone, rfl⟩ := settle_eq_ok.mp firstStep
  obtain ⟨secondSettled, secondLooked, secondGiven, secondGone, rfl⟩ := settle_eq_ok.mp secondStep
  rw [alike.pending] at firstLooked
  have settled := stable.settle second.pending alike.given firstLooked secondLooked
  exact ⟨keeps settled firstGone secondGone, rfl, alike.met⟩

theorem keeps_settle_ok : Keeps (Both related) (·.settle .ok) :=
  stable.keeps_settle (.ok fun _ _ alike => alike)

/-- A letter keeps the relation, whichever choice it makes. -/
theorem keeps_meetLetter (letter : Char) : Keeps (Both related) (·.meetLetter grammar letter) := by
  unfold Progress.meetLetter
  split
  · exact stable.keeps_settle (stable.addFlag .sequential)
  · exact stable.keeps_settle stable.addVerbose
  · exact stable.keeps_settle (.error .helpAsked)
  · split
    · exact stable.keeps_settle (.error .versionAsked)
    · exact .error .unknownArgument
  · exact .error .unknownArgument

/-- A choice without a value keeps the relation, with a value attached or not. -/
theorem keeps_meetPlain (attached : Option String) {go : Given → Except UsageError Given}
    (keeps : Keeps related go) : Keeps (Both related) (·.meetPlain attached go) := by
  cases attached with
  | some text => exact .error .unneededValue
  | none => exact stable.keeps_settle keeps

/-- The name of a value keeps the relation, with the value attached or still to come. -/
theorem keeps_meetSetting (setting : Setting) (attached : Option String) :
    Keeps (Both related) (·.meetSetting setting attached) := by
  cases attached with
  | some text => exact stable.keeps_settle (stable.settle (.value setting text))
  | none =>
      refine stable.keeps_settle_ok.bind (.ok fun first second alike => ?_)
      exact ⟨alike.given, rfl, alike.met⟩

/-- A word keeps the relation, whatever it stands for. -/
theorem keeps_meetWord (word : String) (attached : Option String) :
    Keeps (Both related) (·.meetWord grammar word attached) := by
  unfold Progress.meetWord
  split
  · exact stable.keeps_meetPlain attached (stable.addFlag _)
  · split
    · exact stable.keeps_meetSetting _ attached
    · split
      · exact stable.keeps_meetPlain attached stable.addVerbose
      · split
        · exact stable.keeps_meetPlain attached (.error .helpAsked)
        · split
          · exact stable.keeps_meetPlain attached (.error .versionAsked)
          · exact .error .unknownArgument

/-- An operand keeps the relation, since both readings take it for the same one. -/
theorem keeps_meetOperand (afterHyphens : Bool) (argument : String) :
    Keeps (Both related) (·.meetOperand grammar afterHyphens argument) := by
  intro first second firstNext secondNext alike firstStep secondStep
  dsimp only [Progress.meetOperand] at firstStep secondStep
  rw [alike.met] at firstStep
  split at firstStep
  · rename_i kind there
    rw [there] at secondStep
    have keeps : Keeps (Both related) fun state => state.settle .ok >>= fun settled =>
        .ok { settled with pending := .operand kind argument, met := second.met + 1 } :=
      stable.keeps_settle_ok.bind (.ok fun _ _ settled => ⟨settled.given, rfl, rfl⟩)
    exact keeps alike firstStep secondStep
  · split at firstStep
    · cases firstStep
    · split at firstStep <;> cases firstStep

/-- **Meeting an argument keeps a stable relation.** -/
theorem keeps_meet (argument : String) : Keeps (Both related) (·.meet grammar argument) := by
  unfold Progress.meet
  split
  · exact stable.keeps_meetWord grammar _ _
  · exact .foldlM (stable.keeps_meetLetter grammar) _
  · intro first second firstNext secondNext alike firstStep secondStep
    dsimp only at firstStep secondStep
    rw [alike.pending] at firstStep
    split at firstStep
    · rename_i setting waiting
      rw [waiting] at secondStep
      obtain rfl := Except.ok.inj firstStep
      obtain rfl := Except.ok.inj secondStep
      exact ⟨alike.given, rfl, alike.met⟩
    · rename_i ready
      split at secondStep
      · exact absurd ‹_› (ready _)
      · exact stable.keeps_meetOperand grammar false argument alike firstStep secondStep

end Given.Stable

end Locution.Command
