import Mathlib.Data.List.Infix
import Mathlib.Data.List.Range
import Locution.Pattern.Search
import Locution.Proofs.Text.Folding

/-! # The order of attempts

At one place of a text a piece can take several lengths, and it tries them in a fixed order
(`Piece.attempts`). A pattern takes, piece by piece, the first length after which the rest of the
pattern finds a match (`Pattern.preferred?`). The columns of the search hold this match for every
place of the text (`Pattern.column_eq_map_tails`), and the search reports the first place that has
one (`Pattern.first?_eq_some`, `Pattern.first?_eq_none`).
-/

namespace Locution

open Text

/-- The lengths that a run to the end of a clause can take at the beginning of a text. -/
def clauseAttempts : List Char → List Nat
  | [] => []
  | [c] => if isPlain c then [1] else []
  | c :: d :: rest =>
    (if isClauseMark c then [] else (clauseAttempts (d :: rest)).map (· + 1)) ++
      ((if isSeparator c && isPlain d then (clauseAttempts rest).map (· + 2) else []) ++
        if isPlain c then [1] else [])

/-- A run to the end of a clause goes on behind a first character, or behind two, or is that
character. -/
theorem clauseAttempts_cons (c : Char) (rest : List Char) :
    clauseAttempts (c :: rest) =
      (if isClauseMark c then [] else (clauseAttempts rest).map (· + 1)) ++
        ((if isSeparator c && rest.head?.any isPlain then
            (clauseAttempts (rest.drop 1)).map (· + 2)
          else []) ++
          if isPlain c then [1] else []) := by
  cases rest with
  | nil =>
      simp only [clauseAttempts, List.map_nil, ite_self, List.head?_nil, Option.any_none,
        Bool.and_false, Bool.false_eq_true, ↓reduceIte, List.nil_append]
  | cons d rest => rfl

namespace Piece

/-- The lengths that a piece can take at the beginning of a text, in the order in which they are
tried. -/
def attempts (piece : Piece) (text : List Char) : List Nat :=
  match piece with
  | .literal lead => if (dropFolded lead text).isSome then [lead.length] else []
  | .possessive =>
    pronouns.filterMap fun pronoun =>
      if (dropFolded pronoun text).isSome then some pronoun.length else none
  | .word => (List.range' 1 (text.takeWhile isWordChar).length).reverse
  | .run => List.range' 1 (text.takeWhile (· != '\n')).length
  | .clause => clauseAttempts text

theorem range'_one_succ (count : Nat) :
    List.range' 1 (count + 1) = 1 :: (List.range' 1 count).map (· + 1) := by
  rw [List.range'_succ]
  simp only [Nat.add_comm _ 1, List.map_add_range']

/-- A run of word characters prefers to go on; the run of one character comes last. -/
theorem attempts_word_cons (c : Char) (rest : List Char) :
    attempts .word (c :: rest) =
      if isWordChar c then (attempts .word rest).map (· + 1) ++ [1] else [] := by
  by_cases word : isWordChar c = true
  · simp only [attempts, word, List.takeWhile_cons, ↓reduceIte, List.length_cons,
      range'_one_succ, List.reverse_cons, List.map_reverse]
  · simp only [attempts, word, List.takeWhile_cons, Bool.false_eq_true, ↓reduceIte,
      List.length_nil, List.range'_zero, List.reverse_nil]

/-- A run on a line prefers to end; the run of one character comes first. -/
theorem attempts_run_cons (c : Char) (rest : List Char) :
    attempts .run (c :: rest) =
      if c == '\n' then [] else 1 :: (attempts .run rest).map (· + 1) := by
  by_cases feed : c = '\n'
  · subst feed
    rfl
  · simp only [attempts, bne_iff_ne, ne_eq, feed, not_false_eq_true, List.takeWhile_cons_of_pos,
      List.length_cons, range'_one_succ, beq_iff_eq, ↓reduceIte]

/-- A piece is solid when it takes at least one character: it is not an empty literal. -/
def Solid (piece : Piece) : Prop :=
  piece ≠ .literal []

/-- A solid piece takes nothing at the end of a text. -/
theorem attempts_nil {piece : Piece} (solid : piece.Solid) : piece.attempts [] = [] := by
  cases piece with
  | literal lead =>
      cases lead with
      | nil => exact absurd rfl solid
      | cons c lead => rfl
  | word => rfl
  | possessive => rfl
  | run => rfl
  | clause => rfl

end Piece

/-- The match that takes a length first, and then what `next` finds behind it. -/
def takeThen (next : List Char → Option Lengths) (text : List Char) (length : Nat) :
    Option Lengths :=
  (next (text.drop length)).map (length :: ·)

/-- Attempts that are all longer by the same number are attempts behind as many characters. -/
theorem findSome?_map_add (next : List Char → Option Lengths) (text : List Char) (count : Nat)
    (lengths : List Nat) :
    (lengths.map (· + count)).findSome? (takeThen next text) =
      (lengths.findSome? (takeThen next (text.drop count))).map (Lengths.grow count) := by
  rw [List.findSome?_map, List.map_findSome?]
  congr 1
  funext length
  simp only [Function.comp_apply, takeThen, Option.map_map, List.drop_drop,
    Nat.add_comm count length]
  rfl

/-- The match that the search prefers at the beginning of a text. -/
def Pattern.preferred? : Pattern → List Char → Option Lengths
  | [], _ => some []
  | piece :: pattern, text => (piece.attempts text).findSome? (takeThen (preferred? pattern) text)

namespace Column

variable (next : List Char → Option Lengths)

/-- The first place of the column of a text is that of the text itself. -/
theorem here_map_tails (text : List Char) : here (text.tails.map next) = next text := by
  cases text with
  | nil => simp only [here, List.tails, List.map_cons, List.head?_cons, Option.join_some]
  | cons c rest => simp only [here, List.tails, List.map_cons, List.head?_cons, Option.join_some]

/-- Behind some characters, the column is that of what is left. -/
theorem drop_map_tails {text : List Char} {count : Nat} (within : count ≤ text.length) :
    (text.tails.map next).drop count = (text.drop count).tails.map next := by
  induction count generalizing text with
  | zero => rfl
  | succ count ih =>
      cases text with
      | nil => cases within
      | cons c rest =>
          simp only [List.tails, List.map_cons, List.drop_succ_cons]
          exact ih (Nat.le_of_succ_le_succ within)

/-- Taking characters looks up the column behind them. -/
theorem takeNow_map_tails {text : List Char} {length : Nat} (within : length ≤ text.length) :
    takeNow (text.tails.map next) length = takeThen next text length := by
  rw [takeNow, drop_map_tails next within, here_map_tails, takeThen]

end Column

/-- Attempts that are made under a condition only come to something under this condition only. -/
theorem findSome?_ite_nil {α β : Type} (condition : Prop) [Decidable condition] (items : List α)
    (f : α → Option β) :
    (if condition then items else []).findSome? f =
      if condition then items.findSome? f else none := by
  split <;> rfl

namespace Piece

variable (next : List Char → Option Lengths) (c : Char) (rest : List Char)

/-- Plain text has one attempt, where it stands. -/
theorem choose_literal_map_tails (lead : List Char) (later : Column) :
    choose (.literal lead) c rest ((c :: rest).tails.map next) later =
      (attempts (.literal lead) (c :: rest)).findSome? (takeThen next (c :: rest)) := by
  rw [choose, attempts, findSome?_ite_nil, List.findSome?_singleton]
  refine if_ctx_congr Iff.rfl (fun dropped => ?_) fun _ => rfl
  exact Column.takeNow_map_tails next (isSome_dropFolded_iff.mp dropped).1

/-- Of the pronouns that stand at a place the first one that goes on is chosen. -/
theorem choose_possessive_map_tails (later : Column) :
    choose .possessive c rest ((c :: rest).tails.map next) later =
      (attempts .possessive (c :: rest)).findSome? (takeThen next (c :: rest)) := by
  rw [choose, attempts, ← List.head?_filterMap, ← List.head?_filterMap, List.filterMap_filterMap]
  congr 2
  funext pronoun
  by_cases dropped : (dropFolded pronoun (c :: rest)).isSome = true
  · simp only [dropped, ↓reduceIte, Option.bind_some,
      Column.takeNow_map_tails next (isSome_dropFolded_iff.mp dropped).1]
  · simp only [dropped, Bool.false_eq_true, ↓reduceIte, Option.bind_none]

/-- A run to the end of a clause prefers to go on behind one character, then behind two, and last to
end. -/
theorem choose_clause_map_tails :
    choose .clause c rest ((c :: rest).tails.map next)
        (rest.tails.map fun text => (clauseAttempts text).findSome? (takeThen next text)) =
      (clauseAttempts (c :: rest)).findSome? (takeThen next (c :: rest)) := by
  have unit : (Column.here (rest.tails.map fun text =>
        (clauseAttempts text).findSome? (takeThen next text))).map (Lengths.grow 1) =
      ((clauseAttempts rest).map (· + 1)).findSome? (takeThen next (c :: rest)) := by
    rw [Column.here_map_tails, findSome?_map_add, List.drop_succ_cons, List.drop_zero]
  have pair (inside : 1 ≤ rest.length) : (Column.here ((rest.tails.map fun text =>
        (clauseAttempts text).findSome? (takeThen next text)).drop 1)).map (Lengths.grow 2) =
      ((clauseAttempts (rest.drop 1)).map (· + 2)).findSome? (takeThen next (c :: rest)) := by
    rw [Column.drop_map_tails _ inside, Column.here_map_tails, findSome?_map_add,
      List.drop_succ_cons]
  have last : Column.takeNow ((c :: rest).tails.map next) 1 =
      [1].findSome? (takeThen next (c :: rest)) := by
    rw [Column.takeNow_map_tails next (Nat.succ_le_succ (Nat.zero_le _)), List.findSome?_singleton]
  have joined : (if isSeparator c && rest.head?.any isPlain then
        (Column.here ((rest.tails.map fun text =>
          (clauseAttempts text).findSome? (takeThen next text)).drop 1)).map (Lengths.grow 2)
      else none) =
      if isSeparator c && rest.head?.any isPlain then
        ((clauseAttempts (rest.drop 1)).map (· + 2)).findSome? (takeThen next (c :: rest))
      else none := by
    refine if_ctx_congr Iff.rfl (fun joins => pair ?_) fun _ => rfl
    cases rest with
    | nil => cases (Bool.and_eq_true_iff.mp joins).2
    | cons d rest => exact Nat.succ_le_succ (Nat.zero_le _)
  simp only [choose, clauseAttempts_cons, List.findSome?_append, findSome?_ite_nil, unit, joined,
    last]
  split <;> rfl

end Piece

/-- What a piece prefers at one place is the first of its attempts that the pieces after it can
follow. -/
theorem Piece.choose_map_tails (piece : Piece) (next : List Char → Option Lengths) (c : Char)
    (rest : List Char) :
    piece.choose c rest ((c :: rest).tails.map next)
        (rest.tails.map fun text => (piece.attempts text).findSome? (takeThen next text)) =
      (piece.attempts (c :: rest)).findSome? (takeThen next (c :: rest)) := by
  have one : Column.takeNow ((c :: rest).tails.map next) 1 = takeThen next (c :: rest) 1 :=
    Column.takeNow_map_tails next (Nat.succ_le_succ (Nat.zero_le _))
  cases piece with
  | literal lead => exact choose_literal_map_tails next c rest lead _
  | possessive => exact choose_possessive_map_tails next c rest _
  | word =>
      simp only [choose, Column.here_map_tails, one, attempts_word_cons, findSome?_ite_nil,
        List.findSome?_append, findSome?_map_add, List.drop_succ_cons, List.drop_zero,
        List.findSome?_singleton]
  | run =>
      by_cases feed : (c == '\n') = true
      · simp only [choose, feed, ↓reduceIte, attempts_run_cons, List.findSome?_nil]
      · simp only [choose, feed, Bool.false_eq_true, ↓reduceIte, Column.here_map_tails, one,
          attempts_run_cons, List.findSome?_cons, findSome?_map_add, List.drop_succ_cons,
          List.drop_zero]
        cases takeThen next (c :: rest) 1 <;> rfl
  | clause => exact choose_clause_map_tails next c rest

/-- A piece fills its column with what it prefers at each place of the text. -/
theorem Piece.fill_map_tails {piece : Piece} (solid : piece.Solid)
    (next : List Char → Option Lengths) (text : List Char) :
    piece.fill text (text.tails.map next) =
      text.tails.map fun rest => (piece.attempts rest).findSome? (takeThen next rest) := by
  induction text with
  | nil =>
      simp only [fill, List.tails, List.map_cons, List.map_nil, attempts_nil solid,
        List.findSome?_nil]
  | cons c rest ih =>
      have chosen := piece.choose_map_tails next c rest
      simp only [List.tails, List.map_cons] at chosen
      simp only [List.tails, List.map_cons, fill, List.drop_succ_cons, List.drop_zero, ih, chosen]

namespace Pattern

/-- A pattern of pieces that each take at least one character. -/
def Solid (pattern : Pattern) : Prop :=
  ∀ piece ∈ pattern, piece.Solid

/-- The columns of the search hold the preferred match for every place of the text. -/
theorem column_eq_map_tails {pattern : Pattern} (solid : pattern.Solid) (text : List Char) :
    pattern.column text = text.tails.map pattern.preferred? := by
  induction pattern with
  | nil =>
      have constant : preferred? [] = fun _ => some [] := by
        funext text
        rfl
      simp only [column, List.foldr_nil, emptyColumn, constant, List.map_const', List.length_tails]
  | cons piece pattern ih =>
      have others : Solid pattern := fun piece member => solid piece (List.mem_cons_of_mem _ member)
      have filled := ih others
      simp only [column] at filled
      simp only [column, List.foldr_cons, filled,
        Piece.fill_map_tails (solid piece List.mem_cons_self)]
      rfl

/-- The first match of a column stands at the first place that has one. -/
theorem firstOf_map_tails_eq_some {next : List Char → Option Lengths} {text : List Char}
    {first : Nat} {lengths : Lengths}
    (found : firstOf (text.tails.map next) = some (first, lengths)) :
    first ≤ text.length ∧ next (text.drop first) = some lengths ∧
      ∀ earlier < first, next (text.drop earlier) = none := by
  induction text generalizing first with
  | nil =>
      cases here : next [] with
      | none => simp only [List.tails, List.map_cons, List.map_nil, here, firstOf, Option.map_none,
          reduceCtorEq] at found
      | some taken =>
          simp only [List.tails, List.map_cons, List.map_nil, here, firstOf, Option.some.injEq,
            Prod.mk.injEq] at found
          obtain ⟨rfl, rfl⟩ := found
          exact ⟨Nat.le_refl _, here, fun earlier below => absurd below (Nat.not_lt_zero _)⟩
  | cons c rest ih =>
      cases here : next (c :: rest) with
      | some taken =>
          simp only [List.tails, List.map_cons, here, firstOf, Option.some.injEq,
            Prod.mk.injEq] at found
          obtain ⟨rfl, rfl⟩ := found
          exact ⟨Nat.zero_le _, here, fun earlier below => absurd below (Nat.not_lt_zero _)⟩
      | none =>
          simp only [List.tails, List.map_cons, here, firstOf, Option.map_eq_some_iff,
            Prod.mk.injEq] at found
          obtain ⟨⟨place, taken⟩, later, rfl, rfl⟩ := found
          obtain ⟨within, matched, before⟩ := ih later
          refine ⟨Nat.succ_le_succ within, matched, fun earlier below => ?_⟩
          cases earlier with
          | zero => exact here
          | succ earlier => exact before earlier (Nat.lt_of_succ_lt_succ below)

/-- A column without a match belongs to a text that has one at no place. -/
theorem firstOf_map_tails_eq_none {next : List Char → Option Lengths} {text : List Char}
    (missed : firstOf (text.tails.map next) = none) (place : Nat) :
    next (text.drop place) = none := by
  induction text generalizing place with
  | nil =>
      rw [List.drop_nil]
      cases here : next [] with
      | none => rfl
      | some taken => simp only [List.tails, List.map_cons, List.map_nil, here, firstOf,
          reduceCtorEq] at missed
  | cons c rest ih =>
      cases here : next (c :: rest) with
      | some taken => simp only [List.tails, List.map_cons, here, firstOf, reduceCtorEq] at missed
      | none =>
          simp only [List.tails, List.map_cons, here, firstOf, Option.map_eq_none_iff] at missed
          cases place with
          | zero => exact here
          | succ place => exact ih missed place

/-- The search reports the leftmost place that has a match, with the preferred match there. -/
theorem first?_eq_some {pattern : Pattern} (solid : pattern.Solid) {text : List Char}
    {first : Nat} {lengths : Lengths} (found : pattern.first? text = some (first, lengths)) :
    first ≤ text.length ∧ pattern.preferred? (text.drop first) = some lengths ∧
      ∀ earlier < first, pattern.preferred? (text.drop earlier) = none := by
  rw [first?, column_eq_map_tails solid] at found
  exact firstOf_map_tails_eq_some found

/-- The search reports nothing only where no place has a match. -/
theorem first?_eq_none {pattern : Pattern} (solid : pattern.Solid) {text : List Char}
    (missed : pattern.first? text = none) (place : Nat) :
    pattern.preferred? (text.drop place) = none := by
  rw [first?, column_eq_map_tails solid] at missed
  exact firstOf_map_tails_eq_none missed place

end Pattern

end Locution
