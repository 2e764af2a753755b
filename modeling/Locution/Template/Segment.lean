import Locution.Text.Folding
import Locution.Text.WordChar
import Locution.Template.Slot

/-!
# Segments of a template

A template is read from left to right. At each place the rules are tried in order; where none
applies, a whole run of word characters is taken, or else a single character, so that no marker is
ever read from the middle of a word. Neighbouring pieces of plain text are joined at the end. A
rule with an empty marker applies nowhere, so every step takes at least one character
(`length_of_readSlot?`).
-/

namespace Locution

open Text

/-- A part of a template. -/
inductive Segment where
  /-- Text that stands for itself. -/
  | literal (text : List Char)
  /-- A slot, with the marker as it was written. -/
  | slot (kind : Slot) (token : List Char)
  deriving DecidableEq

namespace Segment

/-- The characters of the template that a segment was read from. -/
def written : Segment → List Char
  | .literal text => text
  | .slot _ token => token

/-- Whether a segment is a slot that any run of text can fill. -/
def isWildcard : Segment → Bool
  | .literal _ => false
  | .slot kind _ => kind.isWildcard

/-- Puts a segment before others; plain text joins plain text. -/
def join (segment : Segment) (following : List Segment) : List Segment :=
  match segment, following with
  | .literal text, .literal next :: rest => .literal (text ++ next) :: rest
  | segment, following => segment :: following

end Segment

/-- Whether a text begins with a character of a word. -/
def opensWithWord : List Char → Bool
  | [] => false
  | c :: _ => isTemplateWordChar c

namespace SlotRule

/-- What a rule leaves of a template, when its marker stands at the beginning. -/
def rest? (rule : SlotRule) (template : List Char) : Option (List Char) :=
  if rule.token.isEmpty then none
  else
    (dropLead asciiFoldEq rule.token template).filter fun rest =>
      !(rule.wholeWord && opensWithWord rest)

/-- The slot that a rule reads at the beginning of a template, and what is left. -/
def read? (rule : SlotRule) (template : List Char) : Option (Segment × List Char) :=
  (rule.rest? template).map fun rest =>
    (.slot rule.slot (template.take rule.token.length), rest)

/-- A rule takes at least one character. -/
theorem length_of_read? {rule : SlotRule} {template rest : List Char} {segment : Segment}
    (read : rule.read? template = some (segment, rest)) : rest.length < template.length := by
  simp only [read?, rest?, Option.map_eq_some_iff, Prod.mk.injEq] at read
  obtain ⟨left, found, _, rfl⟩ := read
  split at found
  · simp only [reduceCtorEq] at found
  · rename_i filled
    have dropped := length_of_dropLead (Option.eq_some_of_filter_eq_some found)
    have positive : 0 < rule.token.length := by
      cases token : rule.token with
      | nil => simp only [token, List.isEmpty_nil, not_true_eq_false] at filled
      | cons => exact Nat.succ_pos _
    omega

end SlotRule

/-- The slot that the first applicable rule reads at the beginning of a template. -/
def readSlot? (rules : List SlotRule) (template : List Char) : Option (Segment × List Char) :=
  rules.findSome? (·.read? template)

/-- Reading a slot takes at least one character. -/
theorem length_of_readSlot? {rules : List SlotRule} {template rest : List Char}
    {segment : Segment} (read : readSlot? rules template = some (segment, rest)) :
    rest.length < template.length := by
  obtain ⟨rule, _, found⟩ := List.exists_of_findSome?_eq_some read
  exact SlotRule.length_of_read? found

/-- The number of characters that are taken as plain text where no rule applies: a run of word
characters, or one other character. The first character is given apart. -/
def plainLength (c : Char) (template : List Char) : Nat :=
  if isTemplateWordChar c then (template.takeWhile isTemplateWordChar).length + 1 else 1

/-- Reads a template to its end; `done` holds the segments read before, the last one first. -/
def readSegments (rules : List SlotRule) (done : List Segment) : List Char → List Segment
  | [] => done.reverse
  | c :: template =>
    match _read : readSlot? rules (c :: template) with
    | some (segment, rest) => readSegments rules (segment :: done) rest
    | none =>
      let count := plainLength c template
      readSegments rules (.literal ((c :: template).take count) :: done)
        (template.drop (count - 1))
termination_by template => template.length
decreasing_by
  · exact length_of_readSlot? _read
  · simp only [List.length_drop, List.length_cons]
    omega

/-- Where a rule applies, its slot is the next segment. -/
theorem readSegments_of_slot {rules : List SlotRule} {c : Char} {template rest : List Char}
    {segment : Segment} (read : readSlot? rules (c :: template) = some (segment, rest))
    (done : List Segment) :
    readSegments rules done (c :: template) = readSegments rules (segment :: done) rest := by
  rw [readSegments]
  split <;> simp_all

/-- Where no rule applies, a run of plain text is the next segment. -/
theorem readSegments_of_plain {rules : List SlotRule} {c : Char} {template : List Char}
    (plain : readSlot? rules (c :: template) = none) (done : List Segment) :
    readSegments rules done (c :: template) =
      readSegments rules (.literal ((c :: template).take (plainLength c template)) :: done)
        (template.drop (plainLength c template - 1)) := by
  rw [readSegments]
  split <;> simp_all

/-- The segments of a template under a table of rules. -/
def segments (rules : List SlotRule) (template : List Char) : List Segment :=
  (readSegments rules [] template).foldr Segment.join []

/-- Joining a segment to others keeps the characters that were read. -/
theorem Segment.written_join (segment : Segment) (following : List Segment) :
    (segment.join following).flatMap written = segment.written ++ following.flatMap written := by
  unfold Segment.join
  split
  · simp only [List.flatMap_cons, written, List.append_assoc]
  · simp only [List.flatMap_cons]

end Locution
