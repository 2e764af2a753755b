import Locution.Command.Arguments

/-!
# Reading a command line

A command line has two levels: arguments before the word for a task, and arguments after it. Choices
may stand on both levels, at most once on each, and those after the task win. A value is looked at
when the next choice or operand is met, so it is the later of two faults that may be reported. After
two hyphens everything is an operand.
-/

namespace Locution.Command

/-- What an operand may be. -/
inductive Operand where
  | text
  | path
  deriving DecidableEq

/-- What may stand on a level of a command line. -/
structure Grammar where
  /-- Whether tasks and the version may be asked for. -/
  outer : Bool
  /-- The choices of this level only. -/
  flags : List (String × Flag)
  operands : List Operand

/-- The words for choices on every level. -/
def commonFlags : List (String × Flag) :=
  [("no-fallback", .noFallback), ("json", .json), ("sequential", .sequential),
    ("no-color", .noColour)]

/-- The words for choices with a value. -/
def settingNames : List (String × Setting) :=
  [("timeout", .timeout), ("model", .model), ("api-base", .base), ("api-key", .key)]

/-- The level before the task. -/
def outerGrammar : Grammar := ⟨true, [], []⟩

/-- The level after the word for a task. -/
def innerGrammar? : String → Option Grammar
  | "find" => some ⟨false, [], [.text, .text]⟩
  | "batch" => some ⟨false, [], [.path]⟩
  | "scan" => some ⟨false, [("mismatches", .mismatches)], [.path]⟩
  | "pattern" => some ⟨false, [], [.text]⟩
  | _ => none

/-- The word that asks for help on a task. -/
def helpWord : String := "help"

/-- What was given on a level. -/
structure Given where
  flags : List Flag
  verbosity : Nat
  values : List (Setting × String)
  operands : List String

namespace Given

/-- Nothing. -/
def nothing : Given := ⟨[], 0, [], []⟩

/-- Whether anything was given. -/
def isNothing (given : Given) : Bool :=
  given.flags.isEmpty && given.verbosity == 0 && given.values.isEmpty && given.operands.isEmpty

end Given

/-- What is not yet looked at. -/
inductive Pending where
  | nothing
  /-- A choice that waits for its value. -/
  | waiting (setting : Setting)
  | value (setting : Setting) (text : String)
  | operand (kind : Operand) (text : String)

/-- A count of seconds: digits, perhaps after a plus sign, below 2 ^ 64. -/
def seconds? (text : String) : Option Nat :=
  let digits := match text.toList with
    | '+' :: rest => rest
    | all => all
  if digits.isEmpty || !digits.all Char.isDigit then none
  else
    let value := digits.foldl (fun n c => n * 10 + (c.toNat - '0'.toNat)) 0
    if value < Nat.pow 2 64 then some value else none

namespace Given

/-- Makes a choice with a value. -/
def addValue (given : Given) (setting : Setting) (text : String) : Except UsageError Given :=
  if given.values.any (·.1 == setting) then .error .repeatedArgument
  else if setting = .timeout ∧ seconds? text = none then .error .unreadableValue
  else .ok { given with values := given.values ++ [(setting, text)] }

/-- Looks at what was pending. -/
def settle (given : Given) : Pending → Except UsageError Given
  | .nothing => .ok given
  | .waiting _ => .error .emptyValue
  | .value setting text => given.addValue setting text
  | .operand kind text =>
    if kind = .path ∧ text = "" then .error .emptyValue
    else .ok { given with operands := given.operands ++ [text] }

/-- Makes a choice. -/
def addFlag (given : Given) (flag : Flag) : Except UsageError Given :=
  if given.flags.contains flag then .error .repeatedArgument
  else .ok { given with flags := given.flags ++ [flag] }

/-- Asks for more words; the count stays below 256. -/
def addVerbose (given : Given) : Given :=
  { given with verbosity := min 255 (given.verbosity + 1) }

end Given

/-- Where the reading of a level stands. -/
structure Progress where
  given : Given
  pending : Pending
  met : Nat

namespace Progress

/-- The beginning of a level. -/
def start : Progress := ⟨.nothing, .nothing, 0⟩

/-- Looks at what was pending, and goes on with what then was given. -/
def settle (progress : Progress) (go : Given → Except UsageError Given) :
    Except UsageError Progress := do
  let given ← progress.given.settle progress.pending
  let given ← go given
  .ok ⟨given, .nothing, progress.met⟩

/-- Meets a choice by its letter. -/
def meetLetter (grammar : Grammar) (progress : Progress) (letter : Char) :
    Except UsageError Progress :=
  match letter with
  | 's' => progress.settle (·.addFlag .sequential)
  | 'v' => progress.settle fun given => .ok given.addVerbose
  | 'h' => progress.settle fun _ => .error .helpAsked
  | 'V' =>
    if grammar.outer then progress.settle fun _ => .error .versionAsked
    else .error .unknownArgument
  | _ => .error .unknownArgument

/-- Meets a choice without a value. -/
def meetPlain (progress : Progress) (attached : Option String)
    (go : Given → Except UsageError Given) : Except UsageError Progress :=
  match attached with
  | some _ => .error .unneededValue
  | none => progress.settle go

/-- Meets a choice with a value, which may follow as the next argument. -/
def meetSetting (progress : Progress) (setting : Setting) (attached : Option String) :
    Except UsageError Progress := do
  match attached with
  | some text => progress.settle (·.addValue setting text)
  | none =>
    let settled ← progress.settle .ok
    .ok { settled with pending := .waiting setting }

/-- Meets a choice by its word. -/
def meetWord (grammar : Grammar) (progress : Progress) (word : String)
    (attached : Option String) : Except UsageError Progress :=
  match (commonFlags ++ grammar.flags).lookup word with
  | some flag => progress.meetPlain attached (·.addFlag flag)
  | none =>
    match settingNames.lookup word with
    | some setting => progress.meetSetting setting attached
    | none =>
      if word = "verbose" then progress.meetPlain attached fun given => .ok given.addVerbose
      else if word = "help" then progress.meetPlain attached fun _ => .error .helpAsked
      else if word = "version" ∧ grammar.outer then
        progress.meetPlain attached fun _ => .error .versionAsked
      else .error .unknownArgument

/-- Meets an operand. -/
def meetOperand (grammar : Grammar) (progress : Progress) (afterHyphens : Bool)
    (argument : String) : Except UsageError Progress :=
  match grammar.operands[progress.met]? with
  | some kind => do
    let settled ← progress.settle .ok
    .ok { settled with pending := .operand kind argument, met := progress.met + 1 }
  | none =>
    if !grammar.outer then .error .unknownArgument
    else if afterHyphens && ((innerGrammar? argument).isSome || argument == helpWord) then
      .error .unknownArgument
    else .error .unknownTask

/-- Meets an argument that is not the word for a task. -/
def meet (grammar : Grammar) (progress : Progress) (argument : String) :
    Except UsageError Progress :=
  match argument.toList with
  | '-' :: '-' :: word =>
    let attached := match word.dropWhile (· != '=') with
      | '=' :: text => some (String.ofList text)
      | _ => none
    progress.meetWord grammar (String.ofList (word.takeWhile (· != '='))) attached
  | '-' :: letter :: letters => (letter :: letters).foldlM (meetLetter grammar) progress
  | _ =>
    match progress.pending with
    | .waiting setting => .ok { progress with pending := .value setting argument }
    | _ => progress.meetOperand grammar false argument

/-- Whether the next argument may be a value. -/
def awaitsValue (progress : Progress) : Bool :=
  match progress.pending with
  | .waiting _ => true
  | _ => false

end Progress

/-- Meets the arguments after two hyphens. -/
def readOperands (grammar : Grammar) : Progress → List String → Except UsageError Progress
  | progress, [] => .ok progress
  | progress, argument :: arguments => do
    readOperands grammar (← progress.meetOperand grammar true argument) arguments

/-- Reads a level up to the word for a task, if tasks may be asked for, or to the end. -/
def readLevel (grammar : Grammar) :
    Progress → List String → Except UsageError (Progress × List String)
  | progress, [] => .ok (progress, [])
  | progress, argument :: arguments =>
    if grammar.outer && !progress.awaitsValue &&
        ((innerGrammar? argument).isSome || argument == helpWord) then
      .ok (progress, argument :: arguments)
    else if argument = "--" then
      (readOperands grammar progress arguments).map (·, [])
    else do
      readLevel grammar (← progress.meet grammar argument) arguments

/-- The task of the given word with what was given after it. -/
def task? (word : String) (given : Given) : Option Task :=
  match word, given.operands with
  | "find", [expression, sentence] => some (.find expression sentence)
  | "batch", [input] => some (.batch input)
  | "scan", [corpus] => some (.scan corpus (given.flags.contains .mismatches))
  | "pattern", [expression] => some (.pattern expression)
  | _, _ => none

/-- The value of a choice: the task's level wins over the level before it, and both over the
surroundings. -/
def chosen (setting : Setting) (outer inner : Given) (around : Option String) : Option String :=
  ((inner.values.lookup setting).or (outer.values.lookup setting)).or around

/-- The arguments for a task from what was given on both levels. -/
def arguments (surroundings : Surroundings) (outer inner : Given) (task : Task) : Arguments :=
  let flag := fun flag => outer.flags.contains flag || inner.flags.contains flag
  let standard := Chat.Settings.standard
  { task := task
    noFallback := flag .noFallback
    json := flag .json
    sequential := flag .sequential
    noColour := flag .noColour
    verbosity := if inner.verbosity = 0 then outer.verbosity else inner.verbosity
    timeout := ((chosen .timeout outer inner none).bind seconds?).getD 30
    model := (chosen .model outer inner surroundings.model).getD standard.model
    base := (chosen .base outer inner surroundings.base).getD standard.base
    key := chosen .key outer inner surroundings.key }

/-- What is asked with the word for help: help on the program, or on one task. -/
def helpOn : List String → UsageError
  | [] => .helpAsked
  | [word] =>
    if (innerGrammar? word).isSome || word == helpWord then .helpAsked else .unknownTask
  | _ => .unknownTask

/-- Reads a command line. -/
def Arguments.ofList (surroundings : Surroundings) (line : List String) :
    Except UsageError Arguments := do
  let (outer, rest) ← readLevel outerGrammar .start line
  match rest with
  | [] =>
    let given ← outer.given.settle outer.pending
    if given.isNothing && !surroundings.isSet then .error .nothingAsked else .error .taskMissing
  | word :: rest =>
    match innerGrammar? word with
    | none => .error (helpOn rest)
    | some grammar =>
      let (progress, _) ← readLevel grammar .start rest
      let inner ← progress.given.settle progress.pending
      match task? word inner with
      | none => .error .operandMissing
      | some task =>
        let given ← outer.given.settle outer.pending
        .ok (arguments surroundings given inner task)

end Locution.Command
