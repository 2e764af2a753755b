import Mathlib.Data.List.Infix
import Locution.Proofs.Template.Elision

/-! # The elision at the end of a template

A template that ends in a marker, white space aside, is parted into what is kept of it and the
elision behind. The elision holds a marker and what is kept ends in neither white space nor a
marker; there is only one way to part the template so (`dropElision_eq_iff_of_endsInMarker`).

The markers can also be cut off one at a time, each with the white space behind it. Every round
makes the text shorter, so after some rounds none is left; what stands then is what is kept, but for
the white space at its end (`Rounds.trimEnd_eq`). A template without a closing marker loses nothing,
and what is kept of another one has no closing marker, so cutting again changes nothing
(`dropElision_exact`).
-/

namespace Locution

open Text

/-- The markers of an elision. -/
inductive IsMarker : List Char → Prop where
  | tilde : IsMarker ['~']
  | dots : IsMarker ['.', '.', '.']

/-- Whether a text ends in an elision marker. -/
def EndsInMarker (text : List Char) : Prop :=
  ∃ marker, IsMarker marker ∧ marker <:+ text

/-- Whether a text is an elision with a marker in it. -/
def IsMarkedElision (text : List Char) : Prop :=
  ∃ before marker after, IsElision before ∧ IsMarker marker ∧ IsElision after ∧
    text = before ++ marker ++ after

/-- Whether a text ends in neither white space nor an elision marker. -/
structure IsClosed (text : List Char) : Prop where
  solid : text.getLast?.any isSpace = false
  unmarked : ¬ EndsInMarker text

/-- What stands before the marker at the end of a text, if the text ends in one but for white
space. -/
def beforeMarker? (text : List Char) : Option (List Char) :=
  ((trimEnd text).dropSuffix? ['~']).or ((trimEnd text).dropSuffix? ['.', '.', '.'])

/-- Rounds in each of which a text loses the marker at its end, until none is left: how many there
are, the text before them and the text after them. -/
inductive Rounds : Nat → List Char → List Char → Prop where
  | none {text : List Char} (unmarked : beforeMarker? text = none) : Rounds 0 text text
  | more {count : Nat} {text before left : List Char} (marked : beforeMarker? text = some before)
      (later : Rounds count before left) : Rounds (count + 1) text left

variable {text rest kept template : List Char}

theorem IsMarker.isElision (marker : IsMarker text) : IsElision text := by
  cases marker with
  | tilde => exact .tilde .nil
  | dots => exact .dots .nil

/-- A marker is the same from both sides. -/
theorem IsMarker.reverse_eq (marker : IsMarker text) : text.reverse = text := by
  cases marker with
  | tilde => rfl
  | dots => rfl

theorem IsMarkedElision.isElision (elided : IsMarkedElision text) : IsElision text := by
  obtain ⟨before, marker, after, first, inside, last, rfl⟩ := elided
  exact (first.append inside.isElision).append last

theorem IsMarkedElision.reverse (elided : IsMarkedElision text) :
    IsMarkedElision text.reverse := by
  obtain ⟨before, marker, after, first, inside, last, rfl⟩ := elided
  refine ⟨after.reverse, marker, before.reverse, last.reverse, inside, first.reverse, ?_⟩
  rw [List.reverse_append, List.reverse_append, inside.reverse_eq, List.append_assoc]

/-- A text opens with a marker when one of the markers begins it. -/
theorem opensWithMarker_iff_exists :
    opensWithMarker text = true ↔ ∃ marker, IsMarker marker ∧ marker <+: text := by
  rw [opensWithMarker_iff]
  constructor
  · intro opens
    cases opens with
    | inl one => exact ⟨_, .tilde, one⟩
    | inr three => exact ⟨_, .dots, three⟩
  · intro opens
    obtain ⟨marker, inside, begins⟩ := opens
    cases inside with
    | tilde => exact .inl begins
    | dots => exact .inr begins

/-- A text ends in a marker when it opens with one backwards. -/
theorem endsInMarker_iff : EndsInMarker text ↔ opensWithMarker text.reverse = true := by
  rw [opensWithMarker_iff_exists]
  apply exists_congr
  intro marker
  apply and_congr_right
  intro inside
  rw [← inside.reverse_eq, List.reverse_prefix, inside.reverse_eq]

/-- A text ends in a marker, white space aside, when it opens with one backwards, behind white
space. -/
theorem endsInMarker_trimEnd_iff :
    EndsInMarker (trimEnd text) ↔ opensWithMarker (trimStart text.reverse) = true := by
  rw [endsInMarker_iff, trimEnd, List.reverse_reverse]

/-- A text has no elision at its end when it has none in front backwards. -/
theorem isClosed_iff : IsClosed text ↔ IsBare text.reverse := by
  have last : text.reverse.head? = text.getLast? := List.head?_reverse
  have marked : EndsInMarker text ↔ opensWithMarker text.reverse = true := endsInMarker_iff
  constructor
  · intro closed
    refine ⟨?_, ?_⟩
    · rw [last]
      exact closed.solid
    · rw [Bool.eq_false_iff, ne_eq, ← marked]
      exact closed.unmarked
  · intro bare
    refine ⟨?_, ?_⟩
    · rw [← last]
      exact bare.solid
    · rw [marked, ← ne_eq, ← Bool.eq_false_iff]
      exact bare.unmarked

theorem IsClosed.trimEnd_eq (closed : IsClosed text) : trimEnd text = text := by
  rw [trimEnd, (isClosed_iff.mp closed).trimStart_eq, List.reverse_reverse]

/-- A template that ends in no marker is kept whole. -/
theorem dropElision_of_not_endsInMarker (unmarked : ¬ EndsInMarker (trimEnd template)) :
    dropElision template = template := by
  rw [endsInMarker_trimEnd_iff] at unmarked
  rw [dropElision, if_neg unmarked]

/-- A template that ends in a marker loses its markers from behind. -/
theorem dropElision_of_endsInMarker (marked : EndsInMarker (trimEnd template)) :
    dropElision template = (dropMarkers template.reverse).reverse := by
  rw [dropElision, if_pos (endsInMarker_trimEnd_iff.mp marked)]

/-- A marker is dropped with the white space in front of it. -/
theorem dropMarkers_of_marker {marker : List Char} (inside : IsMarker marker)
    (trimmed : trimStart text = marker ++ rest) : dropMarkers text = dropMarkers rest := by
  cases inside with
  | tilde => exact dropMarkers_of_tilde trimmed
  | dots => exact dropMarkers_of_dots trimmed

/-- A text that begins with a marker is a marked elision and what is left of it. -/
theorem exists_append_dropMarkers_of_opens (opens : opensWithMarker (trimStart text) = true) :
    ∃ before, IsMarkedElision before ∧ text = before ++ dropMarkers text := by
  obtain ⟨marker, inside, rest, trimmed⟩ := opensWithMarker_iff_exists.mp opens
  obtain ⟨blanks, blank, begun⟩ := exists_append_trimStart text
  obtain ⟨after, elided, split⟩ := exists_append_dropMarkers rest
  refine ⟨blanks ++ marker ++ after,
    ⟨blanks, marker, after, .of_blank blank, inside, elided, rfl⟩, ?_⟩
  calc text
      = blanks ++ (marker ++ (after ++ dropMarkers rest)) := by rw [← split, trimmed, ← begun]
    _ = blanks ++ marker ++ after ++ dropMarkers text := by
        rw [dropMarkers_of_marker inside trimmed.symm]
        simp only [List.append_assoc]

/-- **There is one way to part a template from its closing elision.** -/
theorem dropElision_eq_iff_of_endsInMarker (marked : EndsInMarker (trimEnd template)) :
    dropElision template = kept ↔
      ∃ tail, template = kept ++ tail ∧ IsMarkedElision tail ∧ IsClosed kept := by
  rw [dropElision_of_endsInMarker marked]
  constructor
  · intro same
    obtain ⟨before, elided, split⟩ :=
      exists_append_dropMarkers_of_opens (endsInMarker_trimEnd_iff.mp marked)
    have left : dropMarkers template.reverse = kept.reverse := by
      rw [← same, List.reverse_reverse]
    refine ⟨before.reverse, ?_, elided.reverse, ?_⟩
    · rw [← List.reverse_inj, List.reverse_append, List.reverse_reverse, ← left, ← split]
    · rw [isClosed_iff, ← left]
      exact isBare_dropMarkers _
  · intro parted
    obtain ⟨tail, rfl, elided, closed⟩ := parted
    rw [List.reverse_append, dropMarkers_append elided.isElision.reverse,
      (isClosed_iff.mp closed).dropMarkers_eq, List.reverse_reverse]

/-- What stands before a closing marker has this marker, and perhaps white space, behind it. -/
theorem beforeMarker?_eq_some_iff :
    beforeMarker? text = some rest ↔ ∃ marker, IsMarker marker ∧ trimEnd text = rest ++ marker := by
  rw [beforeMarker?, Option.or_eq_some_iff]
  simp only [List.dropSuffix?_eq_some_iff, beq_iff_eq, exists_eq_right]
  constructor
  · intro ends
    cases ends with
    | inl one => exact ⟨_, .tilde, one⟩
    | inr three => exact ⟨_, .dots, three.2⟩
  · intro ends
    obtain ⟨marker, inside, split⟩ := ends
    cases inside with
    | tilde => exact .inl split
    | dots =>
        -- A text that ends in a dot does not end in a tilde, so it is asked for the dots.
        refine .inr ⟨?_, split⟩
        rw [Option.eq_none_iff_forall_ne_some]
        intro other tilde
        obtain ⟨mark, ends, same⟩ := List.dropSuffix?_eq_some_iff.mp tilde
        have last := congrArg List.getLast? (ends.symm.trans split)
        rw [eq_of_beq same, List.getLast?_append, List.getLast?_append] at last
        cases last

/-- Nothing stands before a closing marker when there is none. -/
theorem beforeMarker?_eq_none_iff :
    beforeMarker? text = none ↔ ¬ EndsInMarker (trimEnd text) := by
  rw [Option.eq_none_iff_forall_ne_some]
  constructor
  · intro none ends
    obtain ⟨marker, inside, before, split⟩ := ends
    exact none before (beforeMarker?_eq_some_iff.mpr ⟨marker, inside, split.symm⟩)
  · intro unmarked before marked
    obtain ⟨marker, inside, split⟩ := beforeMarker?_eq_some_iff.mp marked
    exact unmarked ⟨marker, inside, before, split.symm⟩

/-- A round makes the text shorter. -/
theorem length_lt_of_beforeMarker? (marked : beforeMarker? text = some rest) :
    rest.length < text.length := by
  obtain ⟨marker, inside, split⟩ := beforeMarker?_eq_some_iff.mp marked
  have filled : 0 < marker.length := by
    cases inside with
    | tilde => exact Nat.succ_pos _
    | dots => exact Nat.succ_pos _
  have shorter := length_trimEnd_le text
  rw [split, List.length_append] at shorter
  omega

/-- **The rounds come to an end.** -/
theorem exists_rounds (text : List Char) : ∃ count left, Rounds count text left := by
  cases marked : beforeMarker? text with
  | none => exact ⟨0, text, .none marked⟩
  | some before =>
      have shorter := length_lt_of_beforeMarker? marked
      obtain ⟨count, left, later⟩ := exists_rounds before
      exact ⟨count + 1, left, .more marked later⟩
termination_by text.length

namespace Rounds

variable {count : Nat} {left : List Char}

/-- Each round takes at least one character away. -/
theorem add_length_le (rounds : Rounds count text left) : count + left.length ≤ text.length := by
  induction rounds with
  | none _ => exact Nat.le_of_eq (Nat.zero_add _)
  | more marked _ ih =>
      have shorter := length_lt_of_beforeMarker? marked
      omega

/-- Whether there is a round at all is decided at the end of the text. -/
theorem count_eq_zero_iff (rounds : Rounds count text left) :
    count = 0 ↔ ¬ EndsInMarker (trimEnd text) := by
  rw [← beforeMarker?_eq_none_iff]
  cases rounds with
  | none unmarked => exact iff_of_true rfl unmarked
  | more marked _ =>
      apply iff_of_false (Nat.succ_ne_zero _)
      rw [marked]
      exact Option.some_ne_none _

/-- **The rounds leave what is kept**, but for the white space at its end. -/
theorem trimEnd_eq (rounds : Rounds count text left) :
    trimEnd left = (dropMarkers text.reverse).reverse := by
  -- Both sides lose the last marker in every round, so they are the same when none is left.
  induction rounds with
  | @none text unmarked =>
      rw [beforeMarker?_eq_none_iff, endsInMarker_trimEnd_iff, Bool.not_eq_true] at unmarked
      rw [dropMarkers_of_not_opens unmarked, trimEnd]
  | @more count text before left marked _ ih =>
      obtain ⟨marker, inside, split⟩ := beforeMarker?_eq_some_iff.mp marked
      have trimmed : trimStart text.reverse = marker ++ before.reverse := by
        rw [← List.reverse_inj, ← trimEnd, split, List.reverse_append, List.reverse_reverse,
          inside.reverse_eq]
      rw [ih, dropMarkers_of_marker inside trimmed]

end Rounds

/-- **Exactly the closing elision is cut off.** What is kept of a template is its beginning. If the
template does not end in a marker, white space aside, it is kept whole. Otherwise what is cut off is
made of white space and markers with at least one marker among them, and what is kept ends in
neither; the template can be parted so in one way only. Cutting off one marker after the other comes
to an end and leaves the same, and cutting a second time changes nothing. -/
theorem dropElision_exact (template : List Char) :
    dropElision template <+: template ∧
    (¬ EndsInMarker (trimEnd template) → dropElision template = template) ∧
    (EndsInMarker (trimEnd template) → ∀ kept, dropElision template = kept ↔
      ∃ tail, template = kept ++ tail ∧ IsMarkedElision tail ∧ IsClosed kept) ∧
    (∃ count left, Rounds count template left) ∧
    (∀ count left, Rounds count template left →
      count + left.length ≤ template.length ∧
        dropElision template = if count = 0 then template else trimEnd left) ∧
    dropElision (dropElision template) = dropElision template := by
  refine ⟨?_, dropElision_of_not_endsInMarker, fun marked kept =>
    dropElision_eq_iff_of_endsInMarker marked, exists_rounds template, ?_, ?_⟩
  · by_cases marked : EndsInMarker (trimEnd template)
    · obtain ⟨tail, split, _⟩ := (dropElision_eq_iff_of_endsInMarker marked).mp rfl
      exact ⟨tail, split.symm⟩
    · rw [dropElision_of_not_endsInMarker marked]
  · intro count left rounds
    refine ⟨rounds.add_length_le, ?_⟩
    by_cases unmarked : count = 0
    · rw [if_pos unmarked]
      exact dropElision_of_not_endsInMarker (rounds.count_eq_zero_iff.mp unmarked)
    · rw [if_neg unmarked, rounds.trimEnd_eq]
      rw [rounds.count_eq_zero_iff, not_not] at unmarked
      exact dropElision_of_endsInMarker unmarked
  · by_cases marked : EndsInMarker (trimEnd template)
    · obtain ⟨_, _, _, closed⟩ := (dropElision_eq_iff_of_endsInMarker marked).mp rfl
      apply dropElision_of_not_endsInMarker
      rw [closed.trimEnd_eq]
      exact closed.unmarked
    · rw [dropElision_of_not_endsInMarker marked, dropElision_of_not_endsInMarker marked]

/-- A dot before three dots is kept, and white space before a marker is not. -/
theorem dropElision_exact_four_dots :
    EndsInMarker (trimEnd "I said.... ~\t... ".toList) ∧
      dropElision "I said.... ~\t... ".toList = "I said.".toList ∧
      ¬ EndsInMarker (trimEnd "I said. ".toList) ∧
      dropElision "I said. ".toList = "I said. ".toList := by
  have marked : EndsInMarker (trimEnd "I said.... ~\t... ".toList) :=
    ⟨_, .dots, "I said.... ~\t".toList, by decide⟩
  have unmarked : ¬ EndsInMarker (trimEnd "I said. ".toList) := by
    rw [endsInMarker_trimEnd_iff]
    decide
  have elided : IsMarkedElision "... ~\t... ".toList :=
    ⟨"... ".toList, ['~'], "\t... ".toList, .dots (.space (by decide) .nil), .tilde,
      .space (by decide) (.dots (.space (by decide) .nil)), by decide⟩
  have closed : IsClosed "I said.".toList := by
    rw [isClosed_iff]
    exact ⟨by decide, by decide⟩
  obtain ⟨_, _, parted, _⟩ := dropElision_exact "I said.... ~\t... ".toList
  obtain ⟨_, whole, _⟩ := dropElision_exact "I said. ".toList
  exact ⟨marked, (parted marked _).mpr ⟨_, by decide, elided, closed⟩, unmarked, whole unmarked⟩

end Locution
