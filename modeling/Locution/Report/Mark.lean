/-!
# Marks

A report is a list of marks: pieces of text, and changes of how the text after them looks. Written
plainly a report is its text alone (`plain_append`); written in colour each change becomes a
sequence for the terminal. A change takes nothing over from the changes before it.
-/

namespace Locution.Report

/-- A colour of text. -/
inductive Colour where
  | red
  | green
  | yellow
  deriving DecidableEq

/-- How text looks. -/
structure Look where
  bold : Bool
  dim : Bool
  colour : Option Colour
  deriving DecidableEq

namespace Look

/-- Text in a colour. -/
def ofColour (colour : Colour) : Look := ⟨false, false, some colour⟩

/-- Bold text. -/
def strong : Look := ⟨true, false, none⟩

/-- Dim text. -/
def faint : Look := ⟨false, true, none⟩

/-- How the found part of a sentence looks. -/
def highlight : Look := ⟨true, false, some .yellow⟩

end Look

/-- A part of a report. -/
inductive Mark where
  | text (text : String)
  /-- The text after it looks like this. -/
  | look (look : Look)
  | reset
  deriving DecidableEq

namespace Mark

/-- The end of a line. -/
def newline : Mark := .text "\n"

end Mark

/-- A sequence for the terminal. -/
def sequence (code : String) : String :=
  "\x1b[" ++ code ++ "m"

/-- The sequence for a colour. -/
def Colour.sequence : Colour → String
  | .red => Report.sequence "31"
  | .green => Report.sequence "32"
  | .yellow => Report.sequence "33"

/-- The sequences for a look: everything before is undone first. -/
def Look.sequences (look : Look) : String :=
  sequence "0" ++ (if look.bold then sequence "1" else "") ++
    (if look.dim then sequence "2" else "") ++ (look.colour.map Colour.sequence).getD ""

/-- A highlight undoes everything before, and is bold and yellow. -/
@[simp]
theorem Look.sequences_highlight : highlight.sequences = "\x1b[0m\x1b[1m\x1b[33m" := by
  decide

/-- A mark without colours. -/
def Mark.plain : Mark → String
  | .text words => words
  | .look _ => ""
  | .reset => ""

/-- A mark in colours; behind a reset the text looks as it did before any change. -/
def Mark.coloured : Mark → String
  | .text words => words
  | .look change => change.sequences
  | .reset => sequence "0"

/-- A change of look is the sequences of the look. -/
@[simp]
theorem Mark.coloured_look (look : Look) : coloured (.look look) = look.sequences :=
  rfl

@[simp]
theorem Mark.coloured_text (text : String) : coloured (.text text) = text :=
  rfl

/-- A reset undoes everything before. -/
@[simp]
theorem Mark.coloured_reset : coloured .reset = "\x1b[0m" := by
  decide

/-- A report without colours. -/
def plain (marks : List Mark) : String :=
  String.join (marks.map Mark.plain)

/-- The plain form of a report is that of its parts. -/
theorem plain_append (a b : List Mark) : plain (a ++ b) = plain a ++ plain b := by
  simp only [plain, List.map_append, String.join_append]

/-- A report in colours. -/
def coloured (marks : List Mark) : String :=
  String.join (marks.map Mark.coloured)

/-- A report as it is written. -/
def written (colour : Bool) (marks : List Mark) : String :=
  if colour then coloured marks else plain marks

/-- Text with a look of its own. -/
def styled (look : Look) (text : String) : List Mark :=
  [.look look, .text text, .reset]

/-- A look adds nothing to the plain form. -/
theorem plain_styled (look : Look) (text : String) : plain (styled look text) = text := by
  simp only [plain, styled, List.map_cons, List.map_nil, Mark.plain, String.join_cons,
    String.join_nil, String.empty_append, String.append_empty]

end Locution.Report
