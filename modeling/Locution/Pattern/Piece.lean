/-!
# Pieces of a pattern

A pattern is a sequence of pieces. Its printed form writes plain text with the special characters
marked by a backslash, and every other piece as one of four fixed fragments, which name the piece
in the common notation for regular expressions.
-/

namespace Locution

/-- What one part of a matched text has to look like. -/
inductive Piece where
  /-- A given text, up to simple case folding. -/
  | literal (text : List Char)
  /-- A run of word characters, as long as possible. -/
  | word
  /-- A possessive pronoun, up to simple case folding. -/
  | possessive
  /-- A run of characters other than line feeds, as short as possible. -/
  | run
  /-- A run up to the end of a clause, as long as possible. -/
  | clause
  deriving DecidableEq

/-- A sequence of pieces. -/
abbrev Pattern := List Piece

/-- The possessive pronouns, in the order in which they are tried. -/
def pronouns : List (List Char) :=
  ["my", "your", "his", "her", "their", "its", "our", "one's"].map String.toList

/-- The characters that have a meaning of their own in the printed form. -/
def specialChars : List Char :=
  "\\.+*?()|[]\x7b\x7d^$#&-~".toList

/-- The printed form of one character of plain text. -/
def printedChar (c : Char) : List Char :=
  if specialChars.contains c then ['\\', c] else [c]

/-- The printed form of a choice among texts without special characters. -/
def printedChoice (texts : List (List Char)) : List Char :=
  '(' :: ['|'].intercalate texts ++ [')']

namespace Piece

/-- The printed form of a piece. -/
def printed : Piece → List Char
  | .literal text => text.flatMap printedChar
  | .word => "(\\w+)".toList
  | .possessive => printedChoice pronouns
  | .run => "(.+?)".toList
  | .clause => "((?:[^.!?;:,]|[.,:][^.!?;:,\\s])*[^.!?;:,\\s])".toList

/-- Whether the text that a piece takes is reported. -/
def captures : Piece → Bool
  | .literal _ => false
  | .word | .possessive | .run | .clause => true

/-- A piece with the ASCII letters of its plain text made small. -/
def lowered : Piece → Piece
  | .literal text => .literal (text.map Char.toLower)
  | piece => piece

end Piece

namespace Pattern

/-- The printed form of a pattern. -/
def printed (pattern : Pattern) : String :=
  String.ofList (pattern.flatMap Piece.printed)

end Pattern

end Locution
