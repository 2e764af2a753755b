import Locution.Pattern.Size
import Locution.Semantic.Reply
import Locution.Text.Folding
import Locution.Text.Lowercase
import Locution.Text.Offset

/-!
# Verdicts on replies

A reply is not taken at its word. It is accepted when the sentence has the claimed text at the
claimed characters, up to lowercase. Otherwise the claimed text is looked for in the whole sentence,
up to simple case folding, and the place is repaired. A claim that fits nowhere is rejected with
the reason.
-/

namespace Locution

open Text

/-- What checking a reply against a sentence comes to; ranges are bytes of the sentence. -/
inductive Verdict where
  /-- The claimed text stands at the claimed place. -/
  | accepted (start stop : Nat)
  /-- The claimed text stands at another place. -/
  | repaired (start stop : Nat)
  | unmatched
  | rejected (reason : String)
  deriving DecidableEq

namespace Reply

/-- The claimed text; a missing one counts as empty. -/
def claimedText (reply : Reply) : String :=
  reply.text.getD ""

/-- A claimed place as a count of characters; there is none before the beginning. -/
def place? : Option Int → Option Nat
  | some (.ofNat n) => some n
  | _ => Option.none

/-- The bytes of the sentence at the claimed characters. -/
def claimedRange? (sentence : List Char) (reply : Reply) : Option (Nat × Nat) := do
  let start ← place? reply.start
  let stop ← place? reply.stop
  byteRange? sentence start stop

/-- Whether the sentence has the claimed text at the claimed characters. -/
def holdsAt (sentence : List Char) (reply : Reply) : Bool :=
  match place? reply.start, place? reply.stop with
  | some start, some stop =>
    lowercase (slice sentence start stop) == lowercase reply.claimedText.toList
  | _, _ => false

/-- The bytes of the first part of the sentence that equals the claimed text up to case. -/
def searchedRange? [SearchSize] (sentence : List Char) (reply : Reply) : Option (Nat × Nat) :=
  let claimed := reply.claimedText
  if isBlank claimed then Option.none
  else if Pattern.fits [.literal claimed.toList] then
    (findFolded? claimed.toList sentence).bind fun first =>
      byteRange? sentence first (first + claimed.toList.length)
  else Option.none

/-- A claimed place in messages. -/
def placeText : Option Int → String
  | some n => toString n
  | Option.none => "?"

/-- Why a reply is rejected. -/
def rejection (reply : Reply) : String :=
  "semantic match " ++ quoted reply.claimedText ++ " at [" ++ placeText reply.start ++ ", " ++
    placeText reply.stop ++ ") does not occur in the sentence"

/-- Checks a reply against a sentence. -/
def judge [SearchSize] (sentence : String) (reply : Reply) : Verdict :=
  if !reply.matched then .unmatched
  else
    match (reply.claimedRange? sentence.toList).filter fun _ => reply.holdsAt sentence.toList with
    | some (start, stop) => .accepted start stop
    | Option.none =>
      match reply.searchedRange? sentence.toList with
      | some (start, stop) => .repaired start stop
      | Option.none => .rejected reply.rejection

end Reply

end Locution
