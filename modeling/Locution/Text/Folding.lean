import Locution.Text.FoldingRuns

/-!
# Comparison without regard to case

Two characters are equal up to case when simple case folding sends them to one character. Texts are
compared character by character, so equal texts have equally many characters
(`length_of_dropLead`). The words of templates are compared up to the case of ASCII letters only.
-/

namespace Locution.Text

/-- The simple case folding of a character. -/
def fold (c : Char) : Char :=
  foldingRuns.image c

/-- Whether two characters are equal up to simple case folding. -/
def foldEq (a b : Char) : Bool :=
  fold a == fold b

/-- Whether two characters are equal up to the case of ASCII letters. -/
def asciiFoldEq (a b : Char) : Bool :=
  a.toLower == b.toLower

/-- What follows `lead` at the beginning of a text, when the text begins with `lead` up to
`same`. -/
def dropLead (same : Char → Char → Bool) : List Char → List Char → Option (List Char)
  | [], text => some text
  | _ :: _, [] => none
  | a :: lead, c :: text => if same a c then dropLead same lead text else none

/-- What follows `lead` at the beginning of a text, compared up to simple case folding. -/
def dropFolded (lead text : List Char) : Option (List Char) :=
  dropLead foldEq lead text

/-- The first place of a text at which `wanted` begins up to simple case folding, counted in
characters. -/
def findFolded? (wanted : List Char) : List Char → Option Nat
  | [] => if wanted.isEmpty then some 0 else none
  | c :: text =>
    if (dropFolded wanted (c :: text)).isSome then some 0
    else (findFolded? wanted text).map (· + 1)

/-- Dropping a lead takes as many characters as the lead has. -/
theorem length_of_dropLead {same : Char → Char → Bool} {lead text rest : List Char}
    (dropped : dropLead same lead text = some rest) :
    text.length = lead.length + rest.length := by
  fun_induction dropLead same lead text with
  | case1 text => simp_all only [Option.some.injEq, List.length_nil, Nat.zero_add]
  | case2 => simp_all only [reduceCtorEq]
  | case3 a lead c text agree ih =>
    simp only [List.length_cons, ih dropped]
    omega
  | case4 => simp_all only [reduceCtorEq]

end Locution.Text
