import Locution.Pattern.Piece
import Locution.Text.Blank
import Locution.Text.Folding
import Locution.Text.WordChar

/-!
# Searching a text for a pattern

A match of a pattern is given by the lengths that its pieces take, in order. Each piece has a
preference: words and clauses take as much as they can, runs as little, so long as the pieces after
it can be matched too; pieces on the left decide first.

The search works from the last piece to the first. For every piece it fills a column with the
preferred match from each place of the text on, given the column of the pieces that follow. A place
is thus decided once for each piece, from places to its right, and the first place of the finished
column that has a match is the answer (`Pattern.first?`).
-/

namespace Locution

open Text

/-- The lengths that the pieces of a pattern take, in order. -/
abbrev Lengths := List Nat

/-- The preferred match from each place of a text on, the end of the text included. -/
abbrev Column := List (Option Lengths)

namespace Column

/-- The match at the first place of a column. -/
def here (column : Column) : Option Lengths :=
  column.head?.join

/-- The match after a number of places, with a piece of that length put before it. -/
def takeNow (column : Column) (length : Nat) : Option Lengths :=
  (here (column.drop length)).map (length :: ·)

end Column

namespace Lengths

/-- Makes the first length greater. -/
def grow (count : Nat) : Lengths → Lengths
  | [] => []
  | length :: rest => (length + count) :: rest

end Lengths

/-- The characters that can end a clause. -/
def isClauseMark (c : Char) : Bool :=
  c == '.' || c == '!' || c == '?' || c == ';' || c == ':' || c == ','

/-- The clause marks that end a clause only where no plain character follows. -/
def isSeparator (c : Char) : Bool :=
  c == '.' || c == ',' || c == ':'

/-- The characters that a clause can end with: neither clause marks nor white space. -/
def isPlain (c : Char) : Bool :=
  !isClauseMark c && !isSpace c

namespace Piece

/-- The preferred match of a piece and what follows it, at a place before the character `c` and the
text `rest`. The matches of what follows are known from this place on (`after`), and the matches of
the piece itself from the next place on (`later`). -/
def choose (piece : Piece) (c : Char) (rest : List Char) (after later : Column) :
    Option Lengths :=
  match piece with
  | .literal text =>
    if (dropFolded text (c :: rest)).isSome then after.takeNow text.length else none
  | .possessive =>
    pronouns.findSome? fun pronoun =>
      if (dropFolded pronoun (c :: rest)).isSome then after.takeNow pronoun.length else none
  | .word =>
    if isWordChar c then (later.here.map (Lengths.grow 1)).or (after.takeNow 1) else none
  | .run =>
    if c == '\n' then none else (after.takeNow 1).or (later.here.map (Lengths.grow 1))
  | .clause =>
    let unit := if isClauseMark c then none else later.here.map (Lengths.grow 1)
    let pair :=
      if isSeparator c && rest.head?.any isPlain then
        (Column.here (later.drop 1)).map (Lengths.grow 2)
      else none
    let last := if isPlain c then after.takeNow 1 else none
    unit.or (pair.or last)

/-- The column of a piece over a text, given the column of what follows. -/
def fill (piece : Piece) : List Char → Column → Column
  | [], _ => [none]
  | c :: rest, after =>
    let later := piece.fill rest (after.drop 1)
    piece.choose c rest after later :: later

end Piece

namespace Pattern

/-- The column of the empty pattern: it matches everywhere and takes nothing. -/
def emptyColumn (text : List Char) : Column :=
  List.replicate (text.length + 1) (some [])

/-- The column of a pattern over a text. -/
def column (pattern : Pattern) (text : List Char) : Column :=
  pattern.foldr (fun piece after => piece.fill text after) (emptyColumn text)

/-- The first match of a column with its place. -/
def firstOf : Column → Option (Nat × Lengths)
  | [] => none
  | some lengths :: _ => some (0, lengths)
  | none :: rest => (firstOf rest).map fun found => (found.1 + 1, found.2)

/-- The leftmost place at which a pattern matches, with the preferred match there. -/
def first? (pattern : Pattern) (text : List Char) : Option (Nat × Lengths) :=
  firstOf (pattern.column text)

/-- The texts that the capturing pieces of a match take. -/
def captured : Pattern → Lengths → List Char → List (List Char)
  | piece :: pattern, length :: lengths, text =>
    let others := captured pattern lengths (text.drop length)
    if piece.captures then text.take length :: others else others
  | _, _, _ => []

end Pattern

end Locution
