/-!
# Slots of a template

A template marks places that a sentence fills with its own words. Each marker is listed in a table
of rules, and where several markers could be read at one place the first rule of the table decides.
-/

namespace Locution

/-- What a marked place of a template stands for. -/
inductive Slot where
  /-- One word for a person. -/
  | someone
  /-- A short run of text for a thing. -/
  | something
  /-- A possessive pronoun. -/
  | possessive
  /-- A run of text left out, marked by a tilde. -/
  | tilde
  /-- A run of text left out, marked by three dots. -/
  | ellipsis
  deriving DecidableEq

namespace Slot

/-- Whether any run of text can fill the slot. -/
def isWildcard : Slot → Bool
  | .someone | .possessive => false
  | .something | .tilde | .ellipsis => true

/-- The name of a slot in reports. -/
def name : Slot → String
  | .someone => "Someone"
  | .something => "Something"
  | .possessive => "Possessive"
  | .tilde => "Tilde"
  | .ellipsis => "Ellipsis"

end Slot

/-- How a slot is written in a template. -/
structure SlotRule where
  /-- The marker, read without regard to the case of ASCII letters. -/
  token : List Char
  slot : Slot
  /-- Whether the marker counts only when no character of a word follows it. -/
  wholeWord : Bool
  deriving DecidableEq

/-- The table of markers that is used unless another one is given. -/
def standardRules : List SlotRule := [
  ⟨"(someone)".toList, .someone, false⟩,
  ⟨"(somebody)".toList, .someone, false⟩,
  ⟨"(something)".toList, .something, false⟩,
  ⟨"one's".toList, .possessive, true⟩,
  ⟨"...".toList, .ellipsis, false⟩,
  ⟨"~".toList, .tilde, false⟩]

end Locution
