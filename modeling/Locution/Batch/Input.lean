import Locution.Engine
import Locution.Json.Value

/-!
# Batch inputs

A batch is written as a list of requests, or as an object with the list and a word on whether the
semantic source may be asked. A request is an object or a list of its two parts, and a part that is
left out is empty. The text is read as a whole first, so a text that is no JSON is told apart from
one of another form.
-/

namespace Locution

/-- A batch as it is written. -/
inductive BatchInput where
  | items (requests : List Request)
  /-- An object with a list of requests and a word on the semantic source. -/
  | request (requests : List Request) (fallback : Option Bool)
  deriving DecidableEq

/-- Why a text is no batch. -/
inductive BatchInputError where
  | fault (fault : Json.Fault)
  /-- The value is neither a list of requests nor an object that holds one. -/
  | otherForm

/-- The words for a text that is no batch. -/
def BatchInputError.message (text : List Char) : BatchInputError → String
  | .fault met => met.message text
  | .otherForm => "data did not match any variant of untagged enum BatchInput"

namespace BatchInput

open Json

/-- The requests of a batch. -/
def requests : BatchInput → List Request
  | .items requests => requests
  | .request requests _ => requests

/-- What a batch says about the semantic source. -/
def fallback : BatchInput → Option Bool
  | .items _ => none
  | .request _ fallback => fallback

/-- The value of a key that an object has once, if it has it. There is no answer for a key that
stands twice. -/
def member? (key : String) (members : List (String × Value)) : Option (Option Value) :=
  match members.filter (·.1 == key) with
  | [] => some none
  | [(_, value)] => some (some value)
  | _ => none

/-- A part of a request: empty when it is left out, and otherwise a string. -/
def part? : Option Value → Option String
  | none => some ""
  | some (.string text) => some text
  | some _ => none

/-- A request from its written form. -/
def request? : Value → Option Request
  | .object members => do
    let expression ← part? (← member? "expression" members)
    let sentence ← part? (← member? "sentence" members)
    some ⟨expression, sentence⟩
  | .list parts =>
    if parts.length ≤ 2 then do
      let expression ← part? parts[0]?
      let sentence ← part? parts[1]?
      some ⟨expression, sentence⟩
    else none
  | _ => none

/-- A list of requests from its written form. -/
def requests? : Value → Option (List Request)
  | .list values => values.mapM request?
  | _ => none

/-- A word on the semantic source from its written form. -/
def fallback? : Option Value → Option (Option Bool)
  | none => some none
  | some .null => some none
  | some (.bool value) => some (some value)
  | some _ => none

/-- The object form of a batch from a value. -/
def object? : Value → Option BatchInput
  | .object members => do
    let listed ← requests? (← ← member? "items" members)
    let word ← fallback? (← member? "use_ai_fallback" members)
    some (.request listed word)
  | _ => none

/-- A batch from a value. -/
def ofValue? (value : Value) : Option BatchInput :=
  ((requests? value).map .items).or (object? value)

/-- Reads a text as a batch. The form of the value is looked at before what follows it. -/
def ofText (text : List Char) : Except BatchInputError BatchInput :=
  match readValue depthLimit text with
  | .error met => .error (.fault met)
  | .ok parsed =>
    match ofValue? parsed.value, skipBlank parsed.rest with
    | none, _ => .error .otherForm
    | some input, [] => .ok input
    | some _, rest => .error (.fault (faultAt .trailingText rest))

end BatchInput

end Locution
