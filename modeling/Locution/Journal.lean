import Locution.Text.Quoted

/-!
# Notes on the work

Every step of the work may leave a note: how much it matters, what happened, and the values that
explain it. Notes are kept in the order in which they were made. A note that was made away from the
caller, by a helper that works at the same time, is marked.
-/

namespace Locution

/-- How much a note matters. -/
inductive Level where
  | debug
  | info
  | warn
  deriving DecidableEq

namespace Level

/-- The name of a level. -/
def name : Level → String
  | .debug => "DEBUG"
  | .info => "INFO"
  | .warn => "WARN"

/-- Levels in the order of how much they matter. -/
def rank : Level → Nat
  | .debug => 0
  | .info => 1
  | .warn => 2

end Level

/-- A value of a note. -/
inductive NoteValue where
  /-- A text that a line of notes shows in quotation marks. -/
  | quoted (text : String)
  /-- A text that a line of notes shows as it is. -/
  | plain (text : String)
  deriving DecidableEq

namespace NoteValue

/-- A number as a value of a note. -/
def ofNat (n : Nat) : NoteValue :=
  .plain (toString n)

/-- A number that may be missing. -/
def ofInt? : Option Int → NoteValue
  | some n => .plain s!"Some({n})"
  | none => .plain "None"

/-- The value by itself. -/
def text : NoteValue → String
  | .quoted text => text
  | .plain text => text

/-- The value in a line of notes. -/
def shown : NoteValue → String
  | .quoted text => Text.quoted text
  | .plain text => text

end NoteValue

/-- One thing that happened. -/
structure Note where
  level : Level
  message : String
  values : List (String × NoteValue)
  aside : Bool
  deriving DecidableEq

namespace Note

/-- A note of the caller about an expression. -/
def about (level : Level) (message expression : String) (values : List (String × NoteValue)) :
    Note :=
  ⟨level, message, ("expression", .quoted expression) :: values, false⟩

/-- A note as a helper makes it. -/
def putAside (note : Note) : Note :=
  { note with aside := true }

/-- A level in five characters, at the right. -/
def levelColumn (level : Level) : String :=
  String.ofList (List.replicate (5 - level.name.length) ' ') ++ level.name

/-- A note in one line, without the time at which it was made. -/
def line (note : Note) : String :=
  let values := note.values.map fun (name, value) => " " ++ name ++ "=" ++ value.shown
  levelColumn note.level ++ " " ++ note.message ++ String.join values

end Note

/-- The notes that matter at least as much as a level. -/
def Level.select (least : Level) (notes : List Note) : List Note :=
  notes.filter fun note => least.rank ≤ note.level.rank

end Locution
