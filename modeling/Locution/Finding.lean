import Locution.Text.Offset

/-!
# Findings

A finding says whether a sentence contains an expression, where, and which tier found it. Places
are counted in characters. A finding without a match has empty places and may say what went wrong.
-/

namespace Locution

open Text

/-- The tier that settled a request. -/
inductive Tier where
  | pattern
  | semantic
  /-- Neither tier had an answer. -/
  | neither
  deriving DecidableEq

/-- The word for a tier in reports. -/
def Tier.word : Tier → String
  | .pattern => "regex"
  | .semantic => "ai"
  | .neither => "none"

/-- What came of looking for an expression in a sentence. -/
structure Finding where
  matched : Bool
  /-- The character of the sentence at which the match begins. -/
  start : Nat
  /-- The character of the sentence before which the match ends. -/
  stop : Nat
  text : String
  tier : Tier
  error : Option String
  deriving DecidableEq

namespace Finding

/-- A match from one byte of the sentence up to another. -/
def ofBytes (sentence : String) (start stop : Nat) (tier : Tier) : Finding :=
  let range := (charRange? sentence.toList start stop).getD (0, 0)
  { matched := true
    start := range.1
    stop := range.2
    text := String.ofList (slice sentence.toList range.1 range.2)
    tier := tier
    error := none }

/-- No match. -/
def unmatched (tier : Tier) : Finding :=
  ⟨false, 0, 0, "", tier, none⟩

/-- No match, because something went wrong. -/
def failed (tier : Tier) (error : String) : Finding :=
  { unmatched tier with error := some error }

end Finding

end Locution
