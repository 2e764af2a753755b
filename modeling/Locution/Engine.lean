import Locution.Pattern.Idiom
import Locution.Semantic.Arbiter
import Locution.Span

/-!
# The engine

A request is settled in two tiers. The pattern of the expression is looked for first; only when it
is missed, or takes too much space to be looked for, and only where the request allows it and an
arbiter is there, is the semantic source asked. A source is asked at most once for a request.
-/

namespace Locution

/-- An expression to look for in a sentence. -/
structure Request where
  expression : String
  sentence : String
  deriving DecidableEq

/-- Whether a part of a request is blank. -/
def Request.isBlank (request : Request) : Bool :=
  Text.isBlank request.expression || Text.isBlank request.sentence

/-- Why a request is turned down. -/
inductive RequestError where
  | blankExpression
  | blankSentence
  deriving DecidableEq

/-- The words for turning a request down. -/
def RequestError.message : RequestError → String
  | .blankExpression => "expression is required"
  | .blankSentence => "sentence is required"

/-- The beginning of a sentence, as notes show it. -/
def preview (sentence : String) : String :=
  if sentence.toList.length ≤ 50 then sentence
  else String.ofList (sentence.toList.take 50) ++ "..."

/-- What the pattern tier makes of a request: a finding when the pattern is found, and the notes on
the way. -/
def patternTier [SearchSize] (expression sentence : String) : Option Finding × List Note :=
  let idiom := Idiom.ofStandard expression
  let compiled := Note.about .debug "compiled expression" expression
    [("pattern", .plain idiom.pattern.printed)]
  let loose :=
    if idiom.anchored then []
    else [Note.about .debug "expression has no literal anchor" expression []]
  match idiom.find sentence.toList with
  | .ok (some span) =>
    (some (Finding.ofBytes sentence span.start span.stop .pattern), compiled :: loose)
  | .ok none => (none, compiled :: loose)
  | .error error =>
    (none, compiled :: loose ++ [Note.about .warn "pattern could not be built" expression
      [("error", .plain error.message)]])

/-- Settles requests; `σ` is the memory of the semantic source. -/
structure Engine (σ : Type) where
  arbiter : Option (Arbiter σ)

namespace Engine

variable [SearchSize] {σ : Type}

/-- The pattern tier by itself. -/
def tryPattern (_engine : Engine σ) (request : Request) (desk : Desk σ) :
    Option Finding × Desk σ :=
  let (found, notes) := patternTier request.expression request.sentence
  (found, desk.note notes)

/-- Looks for the pattern of a request that is to be settled. -/
def lookUp (engine : Engine σ) (request : Request) (desk : Desk σ) : Option Finding × Desk σ :=
  let expression := request.expression
  let begun := desk.note [Note.about .info "finding match" expression
    [("sentence", .plain (preview request.sentence))]]
  match engine.tryPattern request begun with
  | (some finding, desk) =>
    (some finding, desk.note [Note.about .info "pattern match found" expression
      [("matched_text", .plain finding.text)]])
  | (none, desk) => (none, desk)

/-- What happens after the pattern was missed. -/
def afterMiss (engine : Engine σ) (fallback : Bool) (request : Request) (desk : Desk σ) :
    Finding × Desk σ :=
  let expression := request.expression
  if fallback then
    match engine.arbiter with
    | some arbiter =>
      arbiter.resolve expression request.sentence (desk.note
        [Note.about .debug "pattern tier missed, trying semantic fallback" expression []])
    | none =>
      (Finding.unmatched .neither, desk.note
        [Note.about .warn "no semantic matcher configured, skipping fallback" expression []])
  else (Finding.unmatched .neither, desk)

/-- Settles a request. -/
def settle (engine : Engine σ) (fallback : Bool) (request : Request) (desk : Desk σ) :
    Finding × Desk σ :=
  match engine.lookUp request desk with
  | (some finding, desk) => (finding, desk)
  | (none, desk) => engine.afterMiss fallback request desk

/-- Settles a request, unless a part of it is blank. -/
def find (engine : Engine σ) (fallback : Bool) (request : Request) (desk : Desk σ) :
    Except RequestError Finding × Desk σ :=
  if Text.isBlank request.expression then (.error .blankExpression, desk)
  else if Text.isBlank request.sentence then (.error .blankSentence, desk)
  else
    let (finding, desk) := engine.settle fallback request desk
    (.ok finding, desk)

end Engine

end Locution
