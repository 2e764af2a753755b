import Locution.Text.AlphanumericRanges
import Locution.Text.WordRanges

/-!
# Characters of words

Templates and sentences count different characters as parts of words. A template goes by letters,
numbers and the underscore; a sentence also by marks, connector punctuation and joiners.
-/

namespace Locution.Text

/-- Whether a character is part of a word in a template. -/
def isTemplateWordChar (c : Char) : Bool :=
  alphanumericRanges.contains c || c == '_'

/-- Whether a character is part of a word in a sentence. -/
def isWordChar (c : Char) : Bool :=
  wordRanges.contains c

end Locution.Text
