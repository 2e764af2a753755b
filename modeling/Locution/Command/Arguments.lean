import Locution.Chat.Settings

/-!
# Arguments

What a user asks of the program: one task, and choices that hold for every task. A choice that is
not made on the command line is taken from the surroundings of the program, and else the standard
holds.
-/

namespace Locution.Command

/-- What is to be done. -/
inductive Task where
  | find (expression sentence : String)
  | batch (input : String)
  | scan (corpus : String) (mismatchesOnly : Bool)
  | pattern (expression : String)
  deriving DecidableEq

namespace Task

/-- The word for a task. -/
def word : Task → String
  | .find _ _ => "find"
  | .batch _ => "batch"
  | .scan _ _ => "scan"
  | .pattern _ => "pattern"

end Task

/-- A choice that is made or not. -/
inductive Flag where
  | noFallback
  | json
  | sequential
  | noColour
  /-- Only for scans. -/
  | mismatches
  deriving DecidableEq

/-- A choice with a value. -/
inductive Setting where
  | timeout
  | model
  | base
  | key
  deriving DecidableEq

/-- The choices that the surroundings of the program make. -/
structure Surroundings where
  model : Option String
  base : Option String
  key : Option String
  deriving DecidableEq

namespace Surroundings

/-- Whether any choice is made. -/
def isSet (surroundings : Surroundings) : Bool :=
  surroundings.model.isSome || surroundings.base.isSome || surroundings.key.isSome

end Surroundings

/-- What a user asks of the program. -/
structure Arguments where
  task : Task
  noFallback : Bool
  json : Bool
  sequential : Bool
  noColour : Bool
  /-- How much is to be said. -/
  verbosity : Nat
  timeout : Nat
  model : String
  base : String
  key : Option String
  deriving DecidableEq

namespace Arguments

/-- The settings of the chat model. -/
def settings (arguments : Arguments) : Chat.Settings :=
  { Chat.Settings.standard with
    base := arguments.base
    key := arguments.key
    model := arguments.model
    timeout := .ofSeconds arguments.timeout }

/-- How long to wait for each answer, if not for ever. -/
def limit (arguments : Arguments) : Option Duration :=
  if arguments.timeout = 0 then none else some (.ofSeconds arguments.timeout)

end Arguments

/-- Why a command line cannot be followed, or asks for nothing but a text about the program. -/
inductive UsageError where
  | nothingAsked
  | taskMissing
  | unknownTask
  | operandMissing
  | unknownArgument
  | repeatedArgument
  | unneededValue
  | emptyValue
  | unreadableValue
  | helpAsked
  | versionAsked
  deriving DecidableEq

end Locution.Command
