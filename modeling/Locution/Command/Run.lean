import Locution.Batch.Input
import Locution.Chat.Client
import Locution.Command.Files
import Locution.Command.Reading
import Locution.Pattern.Estimate
import Locution.Report.Pattern
import Locution.Report.Progress
import Locution.Report.Scan
import Locution.Report.Written

/-!
# Running a command

A run turns arguments, what can be read and an endpoint into an outcome: a text to print, notes, and
the exit code. The code is zero exactly when everything that was looked for was found. The endpoint
is only asked when no argument, no missing key and no batch forbids it. Where helpers work at the
same time, a run depends on the turns that they take first (`runWith`). It works with any measure of
the space that patterns take; the program has the estimate at hand.
-/

namespace Locution.Command

open Report (Mark)

/-- What a command works with. -/
structure Place (σ : Type) where
  read : String → Except ReadFailure String
  input : Except ReadFailure String
  endpoint : Chat.Endpoint σ
  showsColour : Bool

/-- Why a run stops early. -/
inductive RunError where
  | request (error : RequestError)
  | read (path : String) (failure : ReadFailure)
  /-- The content of a file is not of the expected form, for the given reason. -/
  | form (path reason : String)

namespace RunError

/-- An error with the error that caused it. -/
def withCause (message cause : String) : String :=
  "Error: " ++ message ++ "\n\nCaused by:\n    " ++ cause ++ "\n"

/-- What is said about a run that stops early. -/
def message : RunError → String
  | .request error => "Error: " ++ error.message ++ "\n"
  | .read path failure =>
    withCause ("Failed to read input file '" ++ path ++ "'") failure.message
  | .form path reason =>
    withCause ("Failed to parse input file '" ++ path ++ "': " ++ reason) reason

end RunError

/-- What a task comes to: what is printed, given the elapsed time, and whether everything was
found. -/
structure Product where
  print : (elapsed : String) → String
  success : Bool

/-- The engine for some arguments, with the notes on it. Without leave to ask, or without a key, it
has no arbiter. -/
def engineFor {σ : Type} (arguments : Arguments) (endpoint : Chat.Endpoint σ) :
    Engine (Chat.Line σ) × List Note :=
  if arguments.noFallback then (⟨none⟩, [])
  else
    match Chat.Client.ofSettings arguments.settings with
    | .ok client =>
      (⟨some ⟨client.source endpoint, arguments.limit⟩⟩,
        [⟨.info, "semantic fallback enabled", [("model", .quoted arguments.model)], false⟩])
    | .error failure =>
      (⟨none⟩, [⟨.warn, "semantic fallback disabled", [("error", .plain failure.message)], false⟩])

section Tasks

variable [SearchSize] {σ : Type} (place : Place σ) (arguments : Arguments)
  (engine : Engine (Chat.Line σ))

/-- Whether reports show colours. -/
def inColour : Bool :=
  !arguments.noColour && place.showsColour

/-- Settles one request. -/
def runFind (request : Request) (desk : Desk (Chat.Line σ)) :
    Except RunError Product × Desk (Chat.Line σ) :=
  match engine.find engine.arbiter.isSome request desk with
  | (.error error, desk) => (.error (.request error), desk)
  | (.ok finding, desk) =>
    let print := fun _ =>
      if arguments.json then finding.toValue.lines
      else Report.written (inColour place arguments) (Report.matchReport request finding)
    (.ok ⟨print, finding.matched⟩, desk)

/-- Reads a file, or the standard input for a hyphen. -/
def readInput (path : String) : Except RunError String :=
  match if isHyphen path then place.input else place.read path with
  | .ok text => .ok text
  | .error failure => .error (.read path failure)

/-- Reads a batch. -/
def readBatch (path : String) : Except RunError BatchInput := do
  let text ← readInput place path
  match BatchInput.ofText text.toList with
  | .ok input => .ok input
  | .error error => .error (.form path (error.message text.toList))

/-- Reads a corpus. -/
def readCorpus (path : String) : Except RunError Corpus :=
  match place.read path with
  | .error failure => .error (.read path failure)
  | .ok text =>
    match Corpus.ofText text.toList with
    | .ok corpus => .ok corpus
    | .error fault => .error (.form path (fault.message text.toList))

/-- What is printed for a batch. -/
def printBatch (requests : List Request) (outcome : BatchOutcome) (elapsed : String) : String :=
  if arguments.json then (batchValue outcome.findings).lines
  else
    let progress := Report.progressReport (0 < arguments.verbosity) .none outcome.reports
    Report.written (inColour place arguments)
      (progress ++ Report.batchReport requests outcome.findings elapsed)

/-- Settles the batch in a file. -/
def runBatch (turns : List Nat) (path : String) (desk : Desk (Chat.Line σ)) :
    Except RunError Product × Desk (Chat.Line σ) :=
  match readBatch place path with
  | .error error => (.error error, desk)
  | .ok input =>
    let requests := input.requests
    let fallback := engine.arbiter.isSome && input.fallback.getD true
    let pace := Pace.ofTurns arguments.sequential requests.length turns
    let (outcome, desk) := engine.runBatch fallback pace requests desk
    (.ok ⟨printBatch place arguments requests outcome,
      (Tally.ofFindings outcome.findings).allMatched⟩, desk)

/-- What is printed for a scan. -/
def printScan (shown : List Record) (total : Nat) (elapsed : String) : String :=
  if arguments.json then (scanValue shown).lines
  else Report.written (inColour place arguments) (Report.scanReport shown total elapsed)

/-- Scans the corpus in a file. -/
def runScan (turns : List Nat) (path : String) (mismatchesOnly : Bool)
    (desk : Desk (Chat.Line σ)) : Except RunError Product × Desk (Chat.Line σ) :=
  match readCorpus place path with
  | .error error => (.error error, desk)
  | .ok corpus =>
    let pace := Pace.ofTurns arguments.sequential corpus.samples.length turns
    let (records, desk) := engine.scan engine.arbiter.isSome pace corpus desk
    let shown := if mismatchesOnly then mismatches records else records
    (.ok ⟨printScan place arguments shown records.length,
      records.all (·.finding.matched)⟩, desk)

/-- Shows the pattern of an expression. -/
def runPattern (expression : String) : Product :=
  let idiom := Idiom.ofStandard expression
  let print := fun _ =>
    if arguments.json then idiom.toValue.lines
    else Report.written (inColour place arguments) (Report.patternReport idiom)
  ⟨print, true⟩

/-- Does the task. -/
def runTask (turns : List Nat) (desk : Desk (Chat.Line σ)) :
    Except RunError Product × Desk (Chat.Line σ) :=
  match arguments.task with
  | .find expression sentence => runFind place arguments engine ⟨expression, sentence⟩ desk
  | .batch path => runBatch place arguments engine turns path desk
  | .scan path mismatchesOnly => runScan place arguments engine turns path mismatchesOnly desk
  | .pattern expression => (.ok (runPattern place arguments expression), desk)

end Tasks

/-- What a run of the program comes to. -/
structure Outcome (σ : Type) where
  exit : Nat
  /-- The text on the standard output, given the elapsed time. -/
  output : (elapsed : String) → String
  notes : List Note
  /-- What is said about a run that stopped early. -/
  error : Option String
  line : Chat.Line σ

/-- The least level of notes that a verbosity shows. -/
def leastLevel (verbosity : Nat) : Level :=
  match verbosity with
  | 0 => .warn
  | 1 => .info
  | _ => .debug

/-- Runs a command whose helpers, if it has any, take the given turns first. -/
def runWith [SearchSize] {σ : Type} (place : Place σ) (arguments : Arguments) (turns : List Nat)
    (memory : σ) : Outcome σ :=
  let (engine, notes) := engineFor arguments place.endpoint
  let begun := (Desk.ofMemory ⟨memory, []⟩).note notes
  let (result, desk) := runTask place arguments engine turns begun
  let shown := (leastLevel arguments.verbosity).select desk.journal
  match result with
  | .ok product =>
    ⟨if product.success then 0 else 1, product.print, shown, none, desk.memory⟩
  | .error error => ⟨1, fun _ => "", shown, some error.message, desk.memory⟩

/-- Runs a command whose helpers, if it has any, take the items in their order. -/
def run [SearchSize] {σ : Type} (place : Place σ) (arguments : Arguments) (memory : σ) :
    Outcome σ :=
  runWith place arguments [] memory

end Locution.Command
