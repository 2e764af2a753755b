import Locution.Pattern.Piece

/-!
# Reading a printed pattern

A printed pattern says which texts are looked for. Reading it gives back the pieces: a fragment is a
piece of its own, and the characters of plain text that stand together, some of them marked by a
backslash, are one literal.
-/

namespace Locution

namespace Piece

/-- The pieces that are printed as fragments. -/
def fragments : List Piece :=
  [.word, .possessive, .run, .clause]

/-- The piece whose fragment begins a text. -/
def ofFragment? (text : List Char) : Option Piece :=
  fragments.find? fun piece => piece.printed.isPrefixOf text

end Piece

namespace Pattern

/-- Puts a character of plain text before a pattern. -/
def consChar (c : Char) : Pattern → Pattern
  | .literal text :: pattern => .literal (c :: text) :: pattern
  | pattern => .literal [c] :: pattern

/-- Reads printed text behind as many characters as the fragment before it still takes. -/
def readAfter : Nat → List Char → Option Pattern
  | _, [] => some []
  | taken + 1, _ :: rest => readAfter taken rest
  | 0, '\\' :: c :: rest =>
    if specialChars.contains c then (readAfter 0 rest).map (consChar c) else none
  | 0, c :: rest =>
    if specialChars.contains c then
      (Piece.ofFragment? (c :: rest)).bind fun piece =>
        (readAfter (piece.printed.length - 1) rest).map (piece :: ·)
    else (readAfter 0 rest).map (consChar c)

/-- The pattern that a text prints, if it prints one. -/
def ofPrinted? (printed : String) : Option Pattern :=
  readAfter 0 printed.toList

end Pattern

end Locution
