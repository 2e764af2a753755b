import Locution.Json.Printer
import Locution.Text.Blank
import Locution.Semantic.Failure

/-!
# Replies of the semantic source

A reply claims that an expression occurs in a sentence, at which characters and with which text.
Each part may be missing. In a message a reply is a JSON object, which may stand in a code fence or
between other words: the first fence that holds an object counts, and without one all text from the
first opening brace to the last closing brace.
-/

namespace Locution

open Text

/-- What the semantic source claims. -/
structure Reply where
  matched : Bool
  start : Option Int
  stop : Option Int
  text : Option String
  deriving DecidableEq

namespace Reply

/-- The claim that there is no match. -/
def none : Reply := ⟨false, Option.none, Option.none, Option.none⟩

/-- The parts of a reply while it is read: a part that was not met is missing. -/
structure Draft where
  matched : Option Bool
  start : Option (Option Int)
  stop : Option (Option Int)
  text : Option (Option String)

/-- The form of a reply. -/
def shape : Json.Shape Draft Reply where
  title := "struct SemanticReply"
  fields := [
    ⟨"matched", false, (·.matched.isSome), fun draft text =>
      (Json.readBool text).map (·.map fun value => { draft with matched := some value })⟩,
    ⟨"start_index", false, (·.start.isSome), fun draft text =>
      (Json.readOptional Json.readInt64 text).map
        (·.map fun value => { draft with start := some value })⟩,
    ⟨"end_index", false, (·.stop.isSome), fun draft text =>
      (Json.readOptional Json.readInt64 text).map
        (·.map fun value => { draft with stop := some value })⟩,
    ⟨"matched_text", false, (·.text.isSome), fun draft text =>
      (Json.readOptional Json.readText text).map
        (·.map fun value => { draft with text := some value })⟩]
  blank := ⟨Option.none, Option.none, Option.none, Option.none⟩
  finish := fun draft =>
    ⟨draft.matched.getD false, draft.start.join, draft.stop.join, draft.text.join⟩

/-- Reads a JSON text as a reply. -/
def ofJson (text : List Char) : Except Json.Fault Reply :=
  Json.readWhole (Json.readRecord shape) text

end Reply

/-- The text before the first place at which a mark begins, and the text after the mark. -/
def splitAtMark? (mark : List Char) : List Char → Option (List Char × List Char)
  | [] => if mark.isEmpty then some ([], []) else none
  | c :: text =>
    if mark.isPrefixOf (c :: text) then some ([], (c :: text).drop mark.length)
    else (splitAtMark? mark text).map fun (before, after) => (c :: before, after)

/-- The mark at both ends of a fenced block. -/
def fence : List Char := ['`', '`', '`']

/-- A text without a word at its beginning. -/
def withoutLead (lead text : List Char) : List Char :=
  if lead.isPrefixOf text then text.drop lead.length else text

/-- The content of the first fenced block, without a language tag and blanks around it, when an
object begins there. -/
def fencedObject? (message : List Char) : Option (List Char) := do
  let (_, opened) ← splitAtMark? fence message
  let (content, _) ← splitAtMark? fence (withoutLead "json".toList opened)
  let block := trim content
  if block.head? == some '\x7b' then some block else none

/-- All text from the first opening brace to the last closing brace. -/
def bracedPart? (message : List Char) : Option (List Char) :=
  let opened := message.dropWhile (· != '\x7b')
  let part := (opened.reverse.dropWhile (· != '\x7d')).reverse
  if part.isEmpty then none else some part

/-- The part of a message that should be a JSON object. -/
def objectPart? (message : List Char) : Option (List Char) :=
  let trimmed := trim message
  (fencedObject? trimmed).or (bracedPart? trimmed)

/-- Reads the reply in a message. -/
def Reply.ofMessage (message : String) : Except Failure Reply :=
  match objectPart? message.toList with
  | Option.none => .error (.unreadable "no JSON object in response")
  | some part =>
    match Reply.ofJson part with
    | .ok reply => .ok reply
    | .error fault => .error (.unreadable (fault.message part))

end Locution
