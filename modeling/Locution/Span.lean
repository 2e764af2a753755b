import Locution.Pattern.Idiom
import Locution.Pattern.Search
import Locution.Pattern.Size
import Locution.Text.Offset

/-!
# Spans of a sentence

Looking for an idiom in a sentence gives the leftmost span that realizes it, in bytes of the
sentence, with the text that each slot of the pattern took. An idiom without pieces is never found,
and a pattern that takes too much space is refused.
-/

namespace Locution

open Text

/-- A part of a sentence that realizes an idiom. -/
structure Span where
  /-- The byte of the sentence at which the span begins. -/
  start : Nat
  /-- The byte of the sentence before which the span ends. -/
  stop : Nat
  text : List Char
  /-- The texts that the capturing pieces of the pattern took, in order. -/
  slots : List (List Char)
  deriving DecidableEq

/-- A pattern takes more space than the limit allows. -/
structure PatternTooLarge where
  limit : Nat
  deriving DecidableEq

/-- The message about a pattern that takes too much space. -/
def PatternTooLarge.message (error : PatternTooLarge) : String :=
  s!"failed to build pattern regex: Compiled regex exceeds size limit of {error.limit} bytes."

/-- The span of a match that begins after `first` characters and takes `lengths`. -/
def Span.ofMatch (pattern : Pattern) (sentence : List Char) (first : Nat) (lengths : Lengths) :
    Span :=
  let last := lengths.foldl (· + ·) first
  { start := byteLength (sentence.take first)
    stop := byteLength (sentence.take last)
    text := slice sentence first last
    slots := pattern.captured lengths (sentence.drop first) }

/-- The leftmost span of a sentence that matches a pattern. -/
def Pattern.find [SearchSize] (pattern : Pattern) (sentence : List Char) :
    Except PatternTooLarge (Option Span) :=
  if pattern.isEmpty then .ok none
  else if pattern.fits then
    .ok ((pattern.first? sentence).map fun found => Span.ofMatch pattern sentence found.1 found.2)
  else .error ⟨sizeLimit⟩

/-- The leftmost span of a sentence that realizes an idiom. -/
def Idiom.find [SearchSize] (idiom : Idiom) (sentence : List Char) :
    Except PatternTooLarge (Option Span) :=
  idiom.pattern.find sentence

end Locution
