import Locution.Semantic.Source

/-!
# The desk

The state that the work goes through: the memory of the semantic source, the number of times it was
asked, and the notes made so far. Only asking is counted (`calls_note`, `calls_ask`).
-/

namespace Locution

/-- What the work leaves behind. -/
structure Desk (σ : Type) where
  memory : σ
  calls : Nat
  /-- The notes, the oldest first. -/
  journal : List Note

namespace Desk

variable {σ : Type}

/-- A desk before any work. -/
def ofMemory (memory : σ) : Desk σ := ⟨memory, 0, []⟩

/-- Makes notes. -/
def note (desk : Desk σ) (notes : List Note) : Desk σ :=
  { desk with journal := desk.journal ++ notes }

/-- Making notes asks nothing. -/
theorem calls_note (desk : Desk σ) (notes : List Note) : (desk.note notes).calls = desk.calls :=
  rfl

/-- Making notes leaves the source as it is. -/
theorem memory_note (desk : Desk σ) (notes : List Note) :
    (desk.note notes).memory = desk.memory :=
  rfl

/-- Asks a source once. The notes that it makes are left to the caller. -/
def ask (desk : Desk σ) (source : Source σ) (expression sentence : String) :
    Response × Desk σ :=
  let (response, memory) := source expression sentence desk.memory
  (response, { desk with memory := memory, calls := desk.calls + 1 })

/-- Asking counts once. -/
theorem calls_ask (desk : Desk σ) (source : Source σ) (expression sentence : String) :
    (desk.ask source expression sentence).2.calls = desk.calls + 1 :=
  rfl

/-- Has a helper do some work: its notes are marked. -/
def elsewhere {α : Type} (desk : Desk σ) (work : Desk σ → α × Desk σ) : α × Desk σ :=
  let (value, after) := work { desk with journal := [] }
  (value, { after with journal := desk.journal ++ after.journal.map Note.putAside })

end Desk

end Locution
