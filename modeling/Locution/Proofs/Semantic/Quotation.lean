import Locution.Proofs.Json.StringText
import Locution.Proofs.Semantic.Extraction

/-! # Fences inside written texts

Escapes begin with a backslash and hold no backtick, so a written text is cut at a fence where the
text itself is (`splitAtMark?_fence_written`), and blanks are trimmed from it up to the first
escape. So a written text holds a fenced object just when the text does, with blanks that are
written as they are (`HoldsFencedObject`). No key stands behind the opening brace of such an object,
since a quotation mark is written with a backslash (`head?_skipBlank_of_prefix`).
-/

namespace Locution

open Json Text

/-- Whether an object begins in the first fenced block of a text, behind a language tag and blanks
that are no control characters. -/
def HoldsFencedObject (text : List Char) : Prop :=
  ∃ before opened blanks rest after, IsFirstMark fence text before opened ∧
    IsFirstMark fence (withoutLead "json".toList opened) (blanks ++ '\x7b' :: rest) after ∧
      ∀ c ∈ blanks, isSpace c = true ∧ 0x20 ≤ c.toNat

/-- Cutting the text at its fences decides whether it holds a fenced object. -/
theorem holdsFencedObject_iff {text : List Char} :
    HoldsFencedObject text ↔ ∃ cut ∈ splitAtMark? fence text,
      ∃ block ∈ splitAtMark? fence (withoutLead "json".toList cut.2),
        (block.1.dropWhile fun c => isSpace c && decide (0x20 ≤ c.toNat)).head? = some '\x7b' := by
  have plain {c : Char} : (isSpace c && decide (0x20 ≤ c.toNat)) = true ↔
      isSpace c = true ∧ 0x20 ≤ c.toNat := by
    rw [Bool.and_eq_true, decide_eq_true_iff]
  constructor
  · rintro ⟨before, opened, blanks, rest, after, first, second, are⟩
    refine ⟨_, splitAtMark?_eq_some_iff.mpr first, _, splitAtMark?_eq_some_iff.mpr second, ?_⟩
    rw [List.dropWhile_append_of_pos fun c member => plain.mpr (are c member),
      List.dropWhile_cons_of_neg (by decide), List.head?_cons]
  · rintro ⟨⟨before, opened⟩, first, ⟨content, after⟩, second, opens⟩
    obtain ⟨rest, spelled⟩ := List.head?_eq_some_iff.mp opens
    have parts : content.takeWhile (fun c => isSpace c && decide (0x20 ≤ c.toNat)) ++
        '\x7b' :: rest = content := by
      rw [← spelled, List.takeWhile_append_dropWhile]
    refine ⟨before, opened, _, rest, after, splitAtMark?_eq_some_iff.mp first,
      parts ▸ splitAtMark?_eq_some_iff.mp second, fun c member => ?_⟩
    exact plain.mp (List.all_eq_true.mp List.all_takeWhile c member)

instance {text : List Char} : Decidable (HoldsFencedObject text) :=
  decidable_of_iff' _ holdsFencedObject_iff

section Characters

/-- A character is written as it is, or as an escape that begins with a backslash. -/
theorem writtenChar_cases (c : Char) :
    (writtenChar c = [c] ∧ 0x20 ≤ c.toNat ∧ c ≠ '"') ∨
      ∃ kind digits, writtenChar c = '\\' :: kind :: digits := by
  have as := writtenAs c
  generalize writtenChar c = written at as
  cases as with
  | itself printing noQuote noEscape => exact .inl ⟨rfl, printing, noQuote⟩
  | letter member meant => exact .inr ⟨_, _, rfl⟩
  | number digits meant control => exact .inr ⟨_, _, rfl⟩

/-- A blank that is no control character is written as it is. -/
theorem writtenChar_of_isSpace {c : Char} (space : isSpace c = true) (printing : 0x20 ≤ c.toNat) :
    writtenChar c = [c] := by
  have as := writtenAs c
  generalize writtenChar c = written at as
  cases as with
  | itself => rfl
  | number digits meant control => omega
  | @letter letter member meant =>
      have escaped : ("\"\\bfnrt".toList.all fun letter => (letterEscape? letter).all fun c =>
          decide (c.toNat < 0x20) || !isSpace c) = true := by decide
      have known := List.all_eq_true.mp escaped letter member
      rw [meant, Option.all_some, space, Bool.not_true, Bool.or_false, decide_eq_true_iff] at known
      omega

/-- No other character is written with a backtick. -/
theorem tick_not_mem_writtenChar {c : Char} (other : c ≠ '`') : '`' ∉ writtenChar c := by
  have as := writtenAs c
  generalize writtenChar c = written at as
  cases as with
  | itself => exact fun member => other (List.mem_singleton.mp member).symm
  | letter member meant =>
      intro tick
      simp only [List.mem_cons, List.not_mem_nil, or_false] at tick
      rcases tick with same | rfl
      · exact absurd same (by decide)
      · exact absurd member (by decide)
  | number digits meant control =>
      intro tick
      simp only [List.mem_cons, List.not_mem_nil, or_false] at tick
      rcases tick with same | same | same | same | rfl | rfl
      · exact absurd same (by decide)
      · exact absurd same (by decide)
      · exact absurd same (by decide)
      · exact absurd same (by decide)
      · exact absurd digits.1 (by decide)
      · exact absurd digits.2 (by decide)

end Characters

section Marks

variable {mark text after : List Char}

/-- A mark that is written as it is begins a written text just when it begins the text. -/
theorem prefix_written_iff (plain : ∀ m ∈ mark, writtenChar m = [m])
    (absent : ∀ m ∈ mark, m ∉ after) :
    mark <+: text.flatMap writtenChar ++ after ↔ mark <+: text := by
  induction mark generalizing text with
  | nil => exact iff_of_true (List.nil_prefix) (List.nil_prefix)
  | cons m mark ih =>
      cases text with
      | nil =>
          refine iff_of_false (fun begins => ?_) fun begins => ?_
          · exact absent m List.mem_cons_self (begins.subset List.mem_cons_self)
          · exact absurd (begins.subset List.mem_cons_self) List.not_mem_nil
      | cons c text =>
          have further := @ih text (fun m member => plain m (List.mem_cons_of_mem _ member))
            fun m member => absent m (List.mem_cons_of_mem _ member)
          have itself := plain m List.mem_cons_self
          rw [List.flatMap_cons, List.append_assoc, List.cons_prefix_cons]
          rcases writtenChar_cases c with ⟨written, _⟩ | ⟨kind, digits, written⟩
          · rw [written, List.singleton_append, List.cons_prefix_cons, further]
          · -- An escape begins with a backslash, which is not written as it is.
            rw [written, List.cons_append, List.cons_prefix_cons]
            refine iff_of_false ?_ ?_
            · rintro ⟨rfl, _⟩
              exact absurd itself (by decide)
            · rintro ⟨rfl, _⟩
              rw [written] at itself
              cases itself

theorem plain_of_all (plain : (mark.all fun m => writtenChar m == [m]) = true) :
    ∀ m ∈ mark, writtenChar m = [m] :=
  fun m member => beq_iff_eq.mp (List.all_eq_true.mp plain m member)

/-- A mark of plain characters is written as it is. -/
theorem written_of_plain (plain : ∀ m ∈ mark, writtenChar m = [m]) :
    mark.flatMap writtenChar = mark := by
  induction mark with
  | nil => rfl
  | cons m mark ih =>
      rw [List.flatMap_cons, plain m List.mem_cons_self,
        ih fun m member => plain m (List.mem_cons_of_mem _ member), List.singleton_append]

/-- A lead of plain characters is left out of a written text as it is of the text. -/
theorem withoutLead_written (plain : ∀ m ∈ mark, writtenChar m = [m])
    (absent : ∀ m ∈ mark, m ∉ after) :
    withoutLead mark (text.flatMap writtenChar ++ after) =
      (withoutLead mark text).flatMap writtenChar ++ after := by
  have same : mark <+: text.flatMap writtenChar ++ after ↔ mark <+: text :=
    prefix_written_iff plain absent
  rw [← List.isPrefixOf_iff_prefix, ← List.isPrefixOf_iff_prefix, ← Bool.eq_iff_iff] at same
  rw [withoutLead, withoutLead, same]
  split
  · rename_i begins
    obtain ⟨rest, rfl⟩ := List.isPrefixOf_iff_prefix.mp begins
    rw [List.flatMap_append, written_of_plain plain, List.append_assoc, List.drop_left,
      List.drop_left]
  · rfl

/-- A written text is cut at a fence where the text itself is. -/
theorem splitAtMark?_fence_written (quiet : '`' ∉ after) (text : List Char) :
    splitAtMark? fence (text.flatMap writtenChar ++ after) =
      (splitAtMark? fence text).map fun (before, opened) =>
        (before.flatMap writtenChar, opened.flatMap writtenChar ++ after) := by
  have plain : ∀ m ∈ fence, writtenChar m = [m] := plain_of_all (by decide)
  have absent : ∀ m ∈ fence, m ∉ after := by
    intro m member
    have tick : m = '`' := by simpa only [fence, List.mem_cons, List.not_mem_nil, or_self,
      or_false] using member
    rwa [tick]
  induction text with
  | nil => exact splitAtMark?_eq_none quiet
  | cons c text ih =>
      by_cases now : fence <+: c :: text
      · obtain ⟨rest, spelled⟩ := now
        rw [← spelled, List.flatMap_append, written_of_plain plain, List.append_assoc,
          splitAtMark?_mark, splitAtMark?_mark]
        rfl
      · have later := mt (prefix_written_iff plain absent).mp now
        rw [List.flatMap_cons, List.append_assoc] at later ⊢
        rw [splitAtMark?_cons now, Option.map_map]
        -- Only a backtick could begin a fence, and the other characters are skipped as written.
        by_cases tick : c = '`'
        · subst tick
          have written : writtenChar '`' = ['`'] := by decide
          rw [written, List.singleton_append] at later ⊢
          rw [splitAtMark?_cons later, ih, Option.map_map]
          rfl
        · have skipped : splitAtMark? fence (writtenChar c ++ (text.flatMap writtenChar ++ after)) =
              (splitAtMark? fence (text.flatMap writtenChar ++ after)).map fun (before, opened) =>
                (writtenChar c ++ before, opened) :=
            splitAtMark?_append (tick_not_mem_writtenChar tick) _
          rw [skipped, ih, Option.map_map]
          rfl

end Marks

section Openings

variable {text rest : List Char}

/-- A trimmed text begins with a brace when the text does behind white space. -/
theorem head?_trim (text : List Char) :
    (trim text).head? = some '\x7b' ↔ ∃ rest, trimStart text = '\x7b' :: rest := by
  constructor
  · intro opens
    obtain ⟨front, spelled⟩ := List.head?_eq_some_iff.mp opens
    obtain ⟨left, whole⟩ := prefix_trimEnd (trimStart text)
    rw [trim] at spelled
    rw [spelled, List.cons_append] at whole
    exact ⟨_, whole.symm⟩
  · rintro ⟨rest, spelled⟩
    have kept : trimEnd ([] ++ '\x7b' :: rest) = [] ++ '\x7b' :: trimEnd rest :=
      trimEnd_append_cons [] rest (by decide)
    rw [trim, spelled, ← List.nil_append ('\x7b' :: rest), kept]
    rfl

/-- A written text that opens with a brace behind blanks is that of a text that does, and the
blanks are no control characters. -/
theorem exists_of_trimStart_written
    (opens : trimStart (text.flatMap writtenChar) = '\x7b' :: rest) :
    ∃ blanks left, text = blanks ++ '\x7b' :: left ∧
      ∀ c ∈ blanks, isSpace c = true ∧ 0x20 ≤ c.toNat := by
  induction text with
  | nil => cases opens
  | cons c text ih =>
      rw [List.flatMap_cons] at opens
      rcases writtenChar_cases c with ⟨written, printing, _⟩ | ⟨kind, digits, written⟩
      · rw [written, List.singleton_append] at opens
        cases space : isSpace c with
        | true =>
            rw [trimStart, List.dropWhile_cons_of_pos space] at opens
            obtain ⟨blanks, left, rfl, are⟩ := ih opens
            refine ⟨c :: blanks, left, rfl, fun blank member => ?_⟩
            rcases List.mem_cons.mp member with rfl | further
            · exact ⟨space, printing⟩
            · exact are blank further
        | false =>
            rw [trimStart, List.dropWhile_cons_of_neg (Bool.eq_false_iff.mp space)] at opens
            obtain ⟨rfl, _⟩ := List.cons.inj opens
            exact ⟨[], text, rfl, fun _ member => absurd member List.not_mem_nil⟩
      · rw [written, List.cons_append, trimStart, List.dropWhile_cons_of_neg (by decide)] at opens
        exact absurd (List.cons.inj opens).1 (by decide)

/-- White space before a brace is trimmed from a written text as from the text. -/
theorem trimStart_written_append {blanks : List Char}
    (are : ∀ c ∈ blanks, isSpace c = true ∧ 0x20 ≤ c.toNat) (rest : List Char) :
    trimStart ((blanks ++ '\x7b' :: rest).flatMap writtenChar) =
      '\x7b' :: rest.flatMap writtenChar := by
  have plain : ∀ c ∈ blanks, writtenChar c = [c] := fun c member =>
    writtenChar_of_isSpace (are c member).1 (are c member).2
  have brace : writtenChar '\x7b' = ['\x7b'] := by decide
  rw [List.flatMap_append, written_of_plain plain, List.flatMap_cons, brace, List.singleton_append,
    trimStart_append_cons _ _ (by decide), (trimStart_eq_nil_iff blanks).mpr fun c member =>
      (are c member).1, List.nil_append]

/-- No quotation mark opens a written text, behind blanks or without them. -/
theorem head?_skipBlank_written (text : List Char) :
    (skipBlank (text.flatMap writtenChar)).head? ≠ some '"' := by
  induction text with
  | nil => nofun
  | cons c text ih =>
      rw [List.flatMap_cons]
      rcases writtenChar_cases c with ⟨written, _, noQuote⟩ | ⟨kind, digits, written⟩
      · rw [written, List.singleton_append]
        cases blank : isLayout c with
        | true => rwa [skipBlank, List.dropWhile_cons_of_pos blank]
        | false =>
            rw [skipBlank_cons blank]
            exact fun same => noQuote (Option.some.inj same)
      · rw [written, List.cons_append, skipBlank_cons (by decide)]
        exact fun same => absurd (Option.some.inj same) (by decide)

/-- No quotation mark opens a part of a written text from its beginning, behind blanks. -/
theorem head?_skipBlank_of_prefix (within : text <+: rest.flatMap writtenChar) :
    (skipBlank text).head? ≠ some '"' := by
  obtain ⟨left, whole⟩ := within
  intro opens
  obtain ⟨further, spelled⟩ := List.head?_eq_some_iff.mp opens
  have quoted : skipBlank (text ++ left) = '"' :: (further ++ left) := by
    rw [skipBlank, List.dropWhile_append, ← skipBlank, spelled]
    rfl
  have unquoted := head?_skipBlank_written rest
  rw [← whole, quoted] at unquoted
  exact unquoted rfl

end Openings

section Quoted

variable {front text after : List Char}

/-- A message with a written text in it is cut where the text is, if no backtick stands around
it. -/
theorem splitAtMark?_fence_around (quietFront : '`' ∉ front) (quietAfter : '`' ∉ after) :
    splitAtMark? fence (front ++ (text.flatMap writtenChar ++ after)) =
      (splitAtMark? fence text).map fun (before, opened) =>
        (front ++ before.flatMap writtenChar, opened.flatMap writtenChar ++ after) := by
  have skipped : splitAtMark? fence (front ++ (text.flatMap writtenChar ++ after)) =
      (splitAtMark? fence (text.flatMap writtenChar ++ after)).map fun (before, opened) =>
        (front ++ before, opened) :=
    splitAtMark?_append quietFront _
  rw [skipped, splitAtMark?_fence_written quietAfter, Option.map_map]
  rfl

theorem withoutLead_json_written (plainAfter : ∀ m ∈ "json".toList, m ∉ after) :
    withoutLead "json".toList (text.flatMap writtenChar ++ after) =
      (withoutLead "json".toList text).flatMap writtenChar ++ after :=
  withoutLead_written (plain_of_all (by decide)) plainAfter

/-- A fenced object of a text is taken for that of a message in which the text is written. -/
theorem exists_fencedObject?_of_holds (quietFront : '`' ∉ front) (quietAfter : '`' ∉ after)
    (plainAfter : ∀ m ∈ "json".toList, m ∉ after) (holds : HoldsFencedObject text) :
    ∃ rest : List Char, fencedObject? (front ++ (text.flatMap writtenChar ++ after)) =
      some ('\x7b' :: trimEnd (rest.flatMap writtenChar)) := by
  obtain ⟨before, opened, blanks, rest, left, first, second, are⟩ := holds
  have cut : splitAtMark? fence (front ++ (text.flatMap writtenChar ++ after)) =
      some (front ++ before.flatMap writtenChar, opened.flatMap writtenChar ++ after) := by
    rw [splitAtMark?_fence_around quietFront quietAfter, splitAtMark?_eq_some_iff.mpr first]
    rfl
  have closed : splitAtMark? fence
      (withoutLead "json".toList (opened.flatMap writtenChar ++ after)) =
        some ((blanks ++ '\x7b' :: rest).flatMap writtenChar,
          left.flatMap writtenChar ++ after) := by
    rw [withoutLead_json_written plainAfter, splitAtMark?_fence_written quietAfter,
      splitAtMark?_eq_some_iff.mpr second]
    rfl
  have opens := trimStart_written_append are rest
  have object : trim ((blanks ++ '\x7b' :: rest).flatMap writtenChar) =
      '\x7b' :: trimEnd (rest.flatMap writtenChar) := by
    rw [trim, opens]
    exact trimEnd_append_cons [] _ (by decide)
  refine ⟨rest, ?_⟩
  rw [fencedObject?_of_cuts cut closed, object, List.head?_cons, if_pos rfl]

/-- There is no fenced object in a message if there is none in the text that is written in it. -/
theorem fencedObject?_eq_none_of_not_holds (quietFront : '`' ∉ front) (quietAfter : '`' ∉ after)
    (plainAfter : ∀ m ∈ "json".toList, m ∉ after) (holds : ¬ HoldsFencedObject text) :
    fencedObject? (front ++ (text.flatMap writtenChar ++ after)) = none := by
  have cut : splitAtMark? fence (front ++ (text.flatMap writtenChar ++ after)) =
      (splitAtMark? fence text).map fun (before, opened) =>
        (front ++ before.flatMap writtenChar, opened.flatMap writtenChar ++ after) :=
    splitAtMark?_fence_around quietFront quietAfter
  cases first : splitAtMark? fence text with
  | none =>
      rw [first, Option.map_none] at cut
      simp only [fencedObject?, cut, Option.bind_eq_bind, Option.bind_none]
  | some parts =>
      obtain ⟨before, opened⟩ := parts
      rw [first, Option.map_some] at cut
      have closed : splitAtMark? fence
          (withoutLead "json".toList (opened.flatMap writtenChar ++ after)) =
            (splitAtMark? fence (withoutLead "json".toList opened)).map fun (content, left) =>
              (content.flatMap writtenChar, left.flatMap writtenChar ++ after) := by
        rw [withoutLead_json_written plainAfter]
        exact splitAtMark?_fence_written quietAfter _
      cases second : splitAtMark? fence (withoutLead "json".toList opened) with
      | none =>
          rw [second, Option.map_none] at closed
          simp only [fencedObject?, cut, closed, Option.bind_eq_bind, Option.bind_some,
            Option.bind_none]
      | some block =>
          obtain ⟨content, left⟩ := block
          rw [second, Option.map_some] at closed
          rw [fencedObject?_of_cuts cut closed, if_neg]
          intro opens
          obtain ⟨further, trimmed⟩ := (head?_trim _).mp opens
          obtain ⟨blanks, rest, rfl, are⟩ := exists_of_trimStart_written trimmed
          exact holds ⟨before, opened, blanks, rest, left, splitAtMark?_eq_some_iff.mp first,
            splitAtMark?_eq_some_iff.mp second, are⟩

end Quoted

end Locution
