import Locution.Corpus.Verbatim
import Locution.Proofs.Text.Words

/-! # Normal forms

A normal form is made of the maximal runs of the characters that count, among the lowercase
characters of the text, with one blank between neighbours (`normalForm_eq_joined`). Its characters
are lowercase as they stand and its words are its runs, so it is its own normal form
(`normalForm_normalForm`). What comes before a text and behind it adds to its normal form at the
ends only (`normalForm_infix`), so an expression that stands in a text word for word still does when
the text becomes a part of a longer one (`isVerbatim_amid`).
-/

namespace Locution

open Text

variable {text : List Char}

theorem not_isPlainWordChar_blank : isPlainWordChar ' ' = false := by
  decide

/-- Characters that count and blanks are lowercase as they stand. -/
theorem lowerChar_of_plain {c : Char} (plain : isPlainWordChar c = true ∨ c = ' ') :
    lowerChar c = [c] := by
  have each : ∀ code < 128, isPlainWordChar (Char.ofNat code) = true ∨ Char.ofNat code = ' ' →
      lowerChar (Char.ofNat code) = [Char.ofNat code] := by decide +kernel
  have ascii : c.toNat < 128 := by
    rcases plain with counts | rfl
    · simp only [isPlainWordChar, Bool.or_eq_true, Bool.and_eq_true, decide_eq_true_eq] at counts
      rcases counts with ⟨_, small⟩ | ⟨_, small⟩
      · exact Nat.lt_of_le_of_lt small (by decide)
      · exact Nat.lt_of_le_of_lt small (by decide)
    · decide
  have kept := each c.toNat ascii
  rw [Char.ofNat_toNat] at kept
  exact kept plain

/-- Once a character was kept, a normal form goes on with the rest of its run and then with the
runs that follow, each behind a blank. After a gap there is no rest. -/
theorem normalFrom_started {part : List Char} {parts : List (List Char)}
    (split : cut (!isPlainWordChar ·) text = part :: parts) :
    normalFrom true false text =
        part ++ (parts.filter (!·.isEmpty)).flatMap (' ' :: ·) ∧
      normalFrom true true text =
        ((part :: parts).filter (!·.isEmpty)).flatMap (' ' :: ·) := by
  induction text generalizing part parts with
  | nil =>
      obtain ⟨rfl, rfl⟩ := List.cons.inj split
      exact ⟨rfl, rfl⟩
  | cons c text ih =>
      obtain ⟨next, others, rest⟩ :=
        List.exists_cons_of_ne_nil (cut_ne_nil (!isPlainWordChar ·) text)
      obtain ⟨going, waiting⟩ := ih rest
      by_cases counts : isPlainWordChar c = true
      · simp only [cut, counts, rest, Bool.not_true, Bool.false_eq_true, ↓reduceIte] at split
        obtain ⟨rfl, rfl⟩ := List.cons.inj split
        simp [normalFrom, counts, going]
      · simp only [cut, counts, rest, Bool.not_false, ↓reduceIte] at split
        obtain ⟨rfl, rfl⟩ := List.cons.inj split
        simp [normalFrom, counts, waiting]

/-- Until a character is kept nothing is written. -/
theorem normalFrom_eq_joined (gap : Bool) (text : List Char) :
    normalFrom false gap text = joined (runsOf isPlainWordChar text) := by
  induction text generalizing gap with
  | nil => rfl
  | cons c text ih =>
      by_cases counts : isPlainWordChar c = true
      · obtain ⟨next, others, rest⟩ :=
          List.exists_cons_of_ne_nil (cut_ne_nil (!isPlainWordChar ·) text)
        simp [normalFrom, counts, (normalFrom_started rest).1, runsOf, cut, rest, joined]
      · simp [normalFrom, counts, ih, runsOf, cut]

/-- The normal form is the words of the small letters, one blank between two of them. -/
theorem normalForm_eq_joined (text : List Char) :
    normalForm text = joined (runsOf isPlainWordChar (text.flatMap lowerChar)) :=
  normalFrom_eq_joined false _

/-- The runs of a normal form have characters, all of which count. -/
theorem areWords_runsOf (text : List Char) : AreWords (runsOf isPlainWordChar text) := by
  intro word member
  obtain ⟨filled, counts⟩ := of_mem_runsOf member
  refine ⟨filled, ?_⟩
  intro blank
  have impossible := counts ' ' blank
  rw [not_isPlainWordChar_blank] at impossible
  cases impossible

/-- A normal form has characters of words and blanks only. -/
theorem isPlainWordChar_of_mem_normalForm {c : Char} (member : c ∈ normalForm text) :
    isPlainWordChar c = true ∨ c = ' ' := by
  rw [normalForm_eq_joined] at member
  rcases mem_joined member with ⟨word, among, inside⟩ | blank
  · exact .inl ((of_mem_runsOf among).2 c inside)
  · exact .inr blank

/-- A normal form is its own normal form. -/
theorem normalForm_normalForm (text : List Char) :
    normalForm (normalForm text) = normalForm text := by
  have lower : (normalForm text).flatMap lowerChar = normalForm text := by
    have each : ∀ c ∈ normalForm text, lowerChar c = [c] := by
      intro c member
      exact lowerChar_of_plain (isPlainWordChar_of_mem_normalForm member)
    rw [List.flatMap_congr each, List.flatMap_singleton']
  have runs : runsOf isPlainWordChar (normalForm text) =
      runsOf isPlainWordChar (text.flatMap lowerChar) := by
    rw [normalForm_eq_joined]
    exact runsOf_joined (fun _ => of_mem_runsOf) not_isPlainWordChar_blank
  calc normalForm (normalForm text)
      = joined (runsOf isPlainWordChar (normalForm text)) := by
        rw [normalForm_eq_joined (normalForm text), lower]
    _ = normalForm text := by rw [runs, ← normalForm_eq_joined]

/-- **A normal form is the list of the words of a text.** It is made of the maximal runs of small
letters and digits of ASCII, among the characters of the text each made lowercase by itself, with
one blank between neighbours. So it holds only these letters and digits and blanks, no blank stands
at its ends or next to another one, and it is its own normal form. -/
theorem normalize_eq_runs (text : String) :
    (normalize text).toList =
        [' '].intercalate (runsOf isPlainWordChar (text.toList.flatMap lowerChar)) ∧
      (∀ c ∈ (normalize text).toList, isPlainWordChar c = true ∨ c = ' ') ∧
      (normalize text).toList.head? ≠ some ' ' ∧
      (normalize text).toList.getLast? ≠ some ' ' ∧
      ¬ [' ', ' '] <:+: (normalize text).toList ∧
      normalize (normalize text) = normalize text := by
  have form := normalForm_eq_joined text.toList
  have apart : AreWords (runsOf isPlainWordChar (text.toList.flatMap lowerChar)) :=
    areWords_runsOf _
  simp only [normalize, String.toList_ofList]
  refine ⟨?_, ?_, ?_, ?_, ?_, ?_⟩
  · rw [form, joined_eq_intercalate]
  · intro c member
    exact isPlainWordChar_of_mem_normalForm member
  · rw [form]
    exact head?_joined_ne apart
  · rw [form]
    exact getLast?_joined_ne apart
  · rw [form]
    exact not_blanks_infix_joined apart
  · rw [normalForm_normalForm]

/-- A letter whose lowercase has two characters ends a word in the middle. -/
example : normalize " İstanbul, 2nd day" = "i stanbul 2nd day" := by
  decide +kernel

/-- A normal form goes on behind a text from what it came to there. -/
theorem exists_normalFrom_append (started gap : Bool) (text : List Char) :
    ∃ startedThen gapThen, ∀ more,
      normalFrom started gap (text ++ more) =
        normalFrom started gap text ++ normalFrom startedThen gapThen more := by
  induction text generalizing started gap with
  | nil => exact ⟨started, gap, fun more => rfl⟩
  | cons c text ih =>
      by_cases counts : isPlainWordChar c = true
      · obtain ⟨startedThen, gapThen, further⟩ := ih true false
        refine ⟨startedThen, gapThen, ?_⟩
        intro more
        simp [normalFrom, counts, further]
      · obtain ⟨startedThen, gapThen, further⟩ := ih started true
        refine ⟨startedThen, gapThen, ?_⟩
        intro more
        simp [normalFrom, counts, further]

/-- What came before can only put a blank in front of a normal form. -/
theorem normalFrom_suffix (started gap first : Bool) (text : List Char) :
    normalFrom false first text <:+ normalFrom started gap text := by
  induction text generalizing gap first with
  | nil => exact List.suffix_refl []
  | cons c text ih =>
      by_cases counts : isPlainWordChar c = true
      · have own : normalFrom false first (c :: text) = c :: normalFrom true false text := by
          simp [normalFrom, counts]
        rw [own, normalFrom, if_pos counts]
        split
        · exact List.suffix_cons ' ' _
        · exact List.suffix_refl _
      · rw [normalFrom, normalFrom, if_neg counts, if_neg counts]
        exact ih true true

/-- Nothing is kept of characters that do not count. -/
theorem normalFrom_eq_nil {gaps : List Char} (gap : ∀ c ∈ gaps, isPlainWordChar c = false)
    (started waiting : Bool) : normalFrom started waiting gaps = [] := by
  induction gaps generalizing waiting with
  | nil => rfl
  | cons c gaps ih =>
      obtain ⟨first, others⟩ := List.forall_mem_cons.mp gap
      rw [normalFrom, first, if_neg Bool.false_ne_true]
      exact ih others true

/-- Before a character is kept, those that do not count make no difference. -/
theorem normalFrom_append_of_gap {gaps : List Char} (gap : ∀ c ∈ gaps, isPlainWordChar c = false)
    (waiting : Bool) (text : List Char) :
    normalFrom false waiting (gaps ++ text) = normalFrom false false text := by
  induction gaps generalizing waiting with
  | nil => rw [List.nil_append, normalFrom_eq_joined, normalFrom_eq_joined]
  | cons c gaps ih =>
      obtain ⟨first, others⟩ := List.forall_mem_cons.mp gap
      rw [List.cons_append, normalFrom, first, if_neg Bool.false_ne_true]
      exact ih others true

/-- Whether nothing of a character counts. -/
def IsUncounted (c : Char) : Prop :=
  ∀ d ∈ lowerChar c, isPlainWordChar d = false

instance : DecidablePred IsUncounted := fun c =>
  decidable_of_iff ((lowerChar c).all (!isPlainWordChar ·) = true) (by
    simp only [IsUncounted, List.all_eq_true, Bool.not_eq_true'])

/-- Characters of which nothing counts leave a normal form as it is, at both ends. -/
theorem normalForm_around {lead tail : List Char} (before : ∀ c ∈ lead, IsUncounted c)
    (behind : ∀ c ∈ tail, IsUncounted c) (text : List Char) :
    normalForm (lead ++ text ++ tail) = normalForm text := by
  have first : ∀ c ∈ lead.flatMap lowerChar, isPlainWordChar c = false := by
    intro c member
    obtain ⟨capital, among, lower⟩ := List.mem_flatMap.mp member
    exact before capital among c lower
  have last : ∀ c ∈ tail.flatMap lowerChar, isPlainWordChar c = false := by
    intro c member
    obtain ⟨capital, among, lower⟩ := List.mem_flatMap.mp member
    exact behind capital among c lower
  obtain ⟨started, waiting, further⟩ :=
    exists_normalFrom_append false false (text.flatMap lowerChar)
  rw [normalForm, List.append_assoc, List.flatMap_append, List.flatMap_append,
    normalFrom_append_of_gap first, further, normalFrom_eq_nil last, List.append_nil, ← normalForm]

/-- The normal form of a part of a text is a part of the normal form of the text. -/
theorem normalForm_infix (before text after : List Char) :
    normalForm text <:+: normalForm (before ++ text ++ after) := by
  obtain ⟨started, gap, behind⟩ := exists_normalFrom_append false false (before.flatMap lowerChar)
  obtain ⟨startedThen, gapThen, further⟩ :=
    exists_normalFrom_append started gap (text.flatMap lowerChar)
  have parts : normalForm (before ++ text ++ after) =
      normalForm before ++ (normalFrom started gap (text.flatMap lowerChar) ++
        normalFrom startedThen gapThen (after.flatMap lowerChar)) := by
    rw [normalForm, List.append_assoc, List.flatMap_append, List.flatMap_append, behind, further,
      ← normalForm]
  have own : normalForm text <:+ normalFrom started gap (text.flatMap lowerChar) :=
    normalFrom_suffix started gap false _
  rw [parts]
  exact own.isInfix.trans ⟨_, _, by rw [List.append_assoc]⟩

/-- **More context never hides an expression.** Whatever is put before a text and behind it, the
normal form of the text is a part of the whole one, so what stands in the text word for word stands
in the whole word for word, and so does the text itself. -/
theorem isVerbatim_amid (before text after : String) :
    (normalize text).toList <:+: (normalize (before ++ text ++ after)).toList ∧
      (∀ expression, isVerbatim expression text = true →
        isVerbatim expression (before ++ text ++ after) = true) ∧
      isVerbatim text (before ++ text ++ after) = true := by
  have within : normalForm text.toList <:+: normalForm (before ++ text ++ after).toList := by
    rw [String.toList_append, String.toList_append]
    exact normalForm_infix _ _ _
  refine ⟨?_, ?_, ?_⟩
  · simpa only [normalize, String.toList_ofList] using within
  · intro expression found
    rw [isVerbatim, occursIn_iff] at found ⊢
    exact found.trans within
  · rw [isVerbatim, occursIn_iff]
    exact within

/-- The first and the last word of a text become parts of longer ones. -/
theorem isVerbatim_amid_review :
    isVerbatim "view on" "View-on demand" = true ∧
      isVerbatim "view on" ("Re" ++ "View-on demand" ++ "s") = true := by
  have found : isVerbatim "view on" "View-on demand" = true := by decide +kernel
  exact ⟨found, (isVerbatim_amid "Re" "View-on demand" "s").2.1 "view on" found⟩

end Locution
