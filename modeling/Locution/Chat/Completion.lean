import Locution.Chat.Settings
import Locution.Json.Printer
import Locution.Semantic.Failure

/-!
# Completions

The body of a question to a chat model, and the reading of its answer. A body is an object with the
model's name and two messages. An answer whose status is not in the two hundreds is a failure with
its body; of another the text of the first choice counts, unless it is blank.
-/

namespace Locution.Chat

/-- A message with the part that its writer plays. -/
def message (role content : String) : Json.Value :=
  .object [("role", .string role), ("content", .string content)]

/-- The object that asks for a completion. -/
def question (settings : Settings) (system user : String) : Json.Value :=
  .object [
    ("model", .string settings.model),
    ("messages", .list [message "system" system, message "user" user]),
    ("temperature", .number (.real singleFormat false settings.temperature)),
    ("max_tokens", .ofNat settings.maxTokens)]

/-- The body of a question. -/
def questionBody (settings : Settings) (system user : String) : String :=
  (question settings system user).compactText

/-- The form of the message in a choice: its content may be missing. -/
def messageShape : Json.Shape (Option (Option String)) (Option String) where
  title := "struct ResponseMessage"
  fields := [⟨"content", false, (·.isSome), fun _ text =>
    (Json.readOptional Json.readText text).map (·.map some)⟩]
  blank := none
  finish := Option.join

/-- The form of a choice. -/
def choiceShape : Json.Shape (Option (Option String)) (Option String) where
  title := "struct Choice"
  fields := [⟨"message", true, (·.isSome), fun _ text =>
    (Json.readRecord messageShape text).map (·.map some)⟩]
  blank := none
  finish := Option.join

/-- The form of an answer. -/
def answerShape : Json.Shape (Option (List (Option String))) (List (Option String)) where
  title := "struct ChatResponse"
  fields := [⟨"choices", true, (·.isSome), fun _ text =>
    (Json.readList (Json.readRecord choiceShape) text).map (·.map some)⟩]
  blank := none
  finish := (·.getD [])

/-- The contents of the choices in an answer. -/
def choices (body : String) : Except Json.Fault (List (Option String)) :=
  Json.readWhole (Json.readRecord answerShape) body.toList

/-- The body of an answer as it arrives. -/
inductive Body where
  | complete (text : String)
  /-- The body ends before its announced length. -/
  | cutOff

/-- The reason given for an answer that cannot be read. -/
def undecodable : Failure :=
  .unreadable "error decoding response body"

/-- A text without the mark of its encoding. -/
def withoutMark (text : String) : String :=
  match text.toList with
  | '\ufeff' :: rest => String.ofList rest
  | _ => text

/-- Reads the body of a good answer. -/
def readAnswer (body : String) : Except Failure String :=
  match choices body with
  | .error _ => .error undecodable
  | .ok found =>
    match (found.head?.join).filter fun content => !Text.isBlank content with
    | some content => .ok content
    | none => .error .emptyResponse

/-- What an answer with a status and a body comes to. -/
def completion (status : Nat) (body : Body) : Except Failure String :=
  if 200 ≤ status ∧ status < 300 then
    match body with
    | .complete text => readAnswer text
    | .cutOff => .error undecodable
  else
    match body with
    | .complete text => .error (.refused status (withoutMark text))
    | .cutOff => .error (.refused status "")

end Locution.Chat
