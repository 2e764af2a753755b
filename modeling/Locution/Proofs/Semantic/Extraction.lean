import Locution.Proofs.Text.Trim
import Locution.Semantic.Reply

/-! # Where the object in a message is looked for

A text is cut at the first place at which a mark begins (`splitAtMark?_eq_some_iff`), so a message
without a backtick has no fenced block (`fencedObject?_eq_none`). A fence behind a text without
backticks is the first one, whatever follows (`objectPart?_of_fenced`). Without a fenced object the
part from the first opening brace to the last closing brace is taken (`objectPart?_around`).
-/

namespace Locution

open Text

/-- Whether a mark begins in a text at one place and nowhere before. -/
structure IsFirstMark (mark text before after : List Char) : Prop where
  split : text = before ++ mark ++ after
  first : ∀ other rest, text = other ++ mark ++ rest → before.length ≤ other.length

section Marks

variable {mark text before after : List Char}

/-- A text is cut at a mark with which it begins. -/
theorem splitAtMark?_mark (mark rest : List Char) :
    splitAtMark? mark (mark ++ rest) = some ([], rest) := by
  cases spelled : mark ++ rest with
  | nil =>
      obtain ⟨rfl, rfl⟩ := List.append_eq_nil_iff.mp spelled
      rfl
  | cons c text =>
      have begins : mark.isPrefixOf (c :: text) = true :=
        List.isPrefixOf_iff_prefix.mpr ⟨rest, spelled⟩
      rw [splitAtMark?, if_pos begins, ← spelled, List.drop_left]

/-- Where no mark begins, it is looked for behind the character. -/
theorem splitAtMark?_cons {c : Char} (later : ¬ mark <+: c :: text) :
    splitAtMark? mark (c :: text) =
      (splitAtMark? mark text).map fun (before, after) => (c :: before, after) := by
  rw [splitAtMark?, if_neg (mt List.isPrefixOf_iff_prefix.mp later)]

/-- In a text that begins with a mark, this is the first one. -/
theorem isFirstMark_append_iff {rest : List Char} :
    IsFirstMark mark (mark ++ rest) before after ↔ [] = before ∧ rest = after := by
  constructor
  · intro first
    obtain rfl := List.length_eq_zero_iff.mp (Nat.le_zero.mp (first.first [] rest rfl))
    exact ⟨rfl, List.append_cancel_left first.split⟩
  · rintro ⟨rfl, rfl⟩
    exact ⟨rfl, fun _ _ _ => Nat.zero_le _⟩

/-- Where no mark begins, the first one is that of the text behind the character. -/
theorem isFirstMark_cons_iff {c : Char} (later : ¬ mark <+: c :: text) :
    IsFirstMark mark (c :: text) before after ↔
      ∃ between, IsFirstMark mark text between after ∧ c :: between = before := by
  constructor
  · rintro ⟨split, first⟩
    cases before with
    | nil => exact absurd ⟨after, split.symm⟩ later
    | cons d between =>
        obtain ⟨rfl, within⟩ := List.cons.inj split
        refine ⟨between, ⟨within, fun other rest elsewhere => ?_⟩, rfl⟩
        exact Nat.le_of_succ_le_succ (first (c :: other) rest (congrArg (c :: ·) elsewhere))
  · rintro ⟨between, ⟨split, first⟩, rfl⟩
    refine ⟨congrArg (c :: ·) split, fun other rest elsewhere => ?_⟩
    cases other with
    | nil => exact absurd ⟨rest, elsewhere.symm⟩ later
    | cons d other => exact Nat.succ_le_succ (first other rest (List.cons.inj elsewhere).2)

/-- A text is cut at the first place at which a mark begins. -/
theorem splitAtMark?_eq_some_iff :
    splitAtMark? mark text = some (before, after) ↔ IsFirstMark mark text before after := by
  have beginning (before rest : List Char) :
      splitAtMark? mark (mark ++ rest) = some (before, after) ↔
        IsFirstMark mark (mark ++ rest) before after := by
    rw [splitAtMark?_mark, isFirstMark_append_iff, Option.some.injEq, Prod.mk.injEq]
  induction text generalizing before with
  | nil =>
      cases mark with
      | nil => exact beginning before []
      | cons m mark =>
          refine iff_of_false nofun fun first => ?_
          have parts := List.append_eq_nil_iff.mp first.split.symm
          cases (List.append_eq_nil_iff.mp parts.1).2
  | cons c text ih =>
      by_cases now : mark <+: c :: text
      · obtain ⟨rest, spelled⟩ := now
        rw [← spelled]
        exact beginning before rest
      · rw [splitAtMark?_cons now, Option.map_eq_some_iff, isFirstMark_cons_iff now]
        constructor
        · rintro ⟨⟨between, rest⟩, found, same⟩
          obtain ⟨spelled, rfl⟩ := Prod.mk.inj same
          exact ⟨between, ih.mp found, spelled⟩
        · rintro ⟨between, first, rfl⟩
          exact ⟨(between, after), ih.mpr first, rfl⟩

/-- A mark that does not begin with any character of a text is looked for behind it. -/
theorem splitAtMark?_append {m : Char} (absent : m ∉ before) (rest : List Char) :
    splitAtMark? (m :: mark) (before ++ rest) =
      (splitAtMark? (m :: mark) rest).map fun (between, after) => (before ++ between, after) := by
  induction before with
  | nil => exact Option.map_id'.symm
  | cons c before ih =>
      obtain ⟨other, absent⟩ := not_or.mp (mt List.mem_cons.mpr absent)
      have later : ¬ m :: mark <+: c :: (before ++ rest) :=
        fun begins => other (List.cons_prefix_cons.mp begins).1
      rw [List.cons_append, splitAtMark?_cons later, ih absent, Option.map_map]
      rfl

/-- A text is cut at a mark whose first character does not stand before. -/
theorem splitAtMark?_append_mark {m : Char} (absent : m ∉ before) (rest : List Char) :
    splitAtMark? (m :: mark) (before ++ (m :: mark ++ rest)) = some (before, rest) := by
  simp only [splitAtMark?_append absent, splitAtMark?_mark, Option.map_some, List.append_nil]

/-- A mark that does not stand in a text and not across its end is looked for behind the text. -/
theorem splitAtMark?_append_cons {c : Char} (absent : ¬ mark <:+: before) (other : c ∉ mark)
    (rest : List Char) :
    splitAtMark? mark (before ++ c :: rest) =
      (splitAtMark? mark rest).map fun (between, after) => (before ++ c :: between, after) := by
  have apart : ∀ front, ¬ mark <:+: front → ¬ mark <+: front ++ c :: rest := by
    rintro front absent ⟨left, spelled⟩
    rcases List.append_eq_append_iff.mp spelled with ⟨within, rfl, _⟩ | ⟨across, rfl, further⟩
    · exact absent ⟨[], within, rfl⟩
    · cases across with
      | nil => exact absent ⟨[], [], by rw [List.append_nil, List.append_nil, List.nil_append]⟩
      | cons d across =>
          obtain ⟨rfl, _⟩ := List.cons.inj further
          exact other (List.mem_append_right _ List.mem_cons_self)
  induction before with
  | nil => rw [List.nil_append, splitAtMark?_cons (apart [] absent)]; rfl
  | cons d before ih =>
      have later : ¬ mark <+: d :: (before ++ c :: rest) := apart (d :: before) absent
      have further : ¬ mark <:+: before := fun inside => absent (List.infix_cons inside)
      rw [List.cons_append, splitAtMark?_cons later, ih further, Option.map_map]
      rfl

/-- There is no mark in a text without its first character. -/
theorem splitAtMark?_eq_none {m : Char} (absent : m ∉ text) :
    splitAtMark? (m :: mark) text = none := by
  have looked : splitAtMark? (m :: mark) (text ++ []) = none := splitAtMark?_append absent []
  rwa [List.append_nil] at looked

end Marks

section Blanks

/-- Only what stands around an object is trimmed. -/
theorem trim_around (before body after : List Char) :
    trim (before ++ '\x7b' :: (body ++ '\x7d' :: after)) =
      trimStart before ++ '\x7b' :: (body ++ '\x7d' :: trimEnd after) := by
  rw [trim, trimStart_append_cons _ _ (by decide), ← List.cons_append, ← List.append_assoc,
    trimEnd_append_cons _ _ (by decide), List.append_assoc, List.cons_append]

end Blanks

section Braces

variable {before body after : List Char}

/-- A character of a text stands last somewhere. -/
theorem exists_last_of_mem {c : Char} {text : List Char} (member : c ∈ text) :
    ∃ inner rest, text = inner ++ c :: rest ∧ c ∉ rest := by
  obtain ⟨rest, inner, spelled, absent⟩ :=
    List.eq_append_cons_of_mem (List.mem_reverse.mpr member)
  refine ⟨inner.reverse, rest.reverse, ?_, mt List.mem_reverse.mp absent⟩
  rw [← List.reverse_inj, spelled]
  simp only [List.reverse_append, List.reverse_cons, List.reverse_reverse, List.append_assoc,
    List.cons_append, List.nil_append]

/-- The object with braces at both ends is taken, when no brace of that kind stands further out. -/
theorem bracedPart?_around (opening : '\x7b' ∉ before) (closing : '\x7d' ∉ after) :
    bracedPart? (before ++ '\x7b' :: (body ++ '\x7d' :: after)) =
      some ('\x7b' :: (body ++ ['\x7d'])) := by
  have skipped : ∀ c ∈ before, (c != '\x7b') = true := fun c member =>
    bne_iff_ne.mpr fun same => opening (same ▸ member)
  have left : ∀ c ∈ after.reverse, (c != '\x7d') = true := fun c member =>
    bne_iff_ne.mpr fun same => closing (same ▸ List.mem_reverse.mp member)
  have opened : (before ++ '\x7b' :: (body ++ '\x7d' :: after)).dropWhile (· != '\x7b') =
      '\x7b' :: (body ++ '\x7d' :: after) := by
    rw [List.dropWhile_append_of_pos skipped, List.dropWhile_cons_of_neg (by decide)]
  have backwards : ('\x7b' :: (body ++ '\x7d' :: after)).reverse =
      after.reverse ++ '\x7d' :: (body.reverse ++ ['\x7b']) := by
    simp only [List.reverse_cons, List.reverse_append, List.append_assoc, List.cons_append,
      List.nil_append]
  simp only [bracedPart?, opened, backwards]
  rw [List.dropWhile_append_of_pos left, List.dropWhile_cons_of_neg (by decide)]
  simp only [List.reverse_cons, List.reverse_append, List.reverse_nil, List.nil_append,
    List.reverse_reverse, List.cons_append, List.isEmpty_cons, Bool.false_eq_true, ↓reduceIte]

/-- Without a fenced object the part between the outermost braces is taken. -/
theorem objectPart?_around
    (unfenced : fencedObject? (trim (before ++ '\x7b' :: (body ++ '\x7d' :: after))) = none)
    (opening : '\x7b' ∉ before) (closing : '\x7d' ∉ after) :
    objectPart? (before ++ '\x7b' :: (body ++ '\x7d' :: after)) =
      some ('\x7b' :: (body ++ ['\x7d'])) := by
  simp only [objectPart?, unfenced, Option.none_or]
  rw [trim_around]
  exact bracedPart?_around (fun member => opening (mem_of_mem_trimStart member))
    fun member => closing (mem_of_mem_trimEnd member)

end Braces

section Fences

variable {message before opened content after : List Char}

/-- Between two fences an object is taken when the text there begins with a brace. -/
theorem fencedObject?_of_cuts (first : splitAtMark? fence message = some (before, opened))
    (second : splitAtMark? fence (withoutLead "json".toList opened) = some (content, after)) :
    fencedObject? message =
      if (trim content).head? = some '\x7b' then some (trim content) else none := by
  simp only [fencedObject?, first, second, Option.bind_eq_bind, Option.bind_some, beq_iff_eq]

/-- A message without a backtick has no fenced block. -/
theorem fencedObject?_eq_none (absent : '`' ∉ message) : fencedObject? message = none := by
  have uncut : splitAtMark? fence message = none := splitAtMark?_eq_none absent
  simp only [fencedObject?, uncut, Option.bind_eq_bind, Option.bind_none]

/-- Only what stands around fences is trimmed. -/
theorem trim_fences (before middle after : List Char) :
    trim (before ++ (fence ++ (middle ++ (fence ++ after)))) =
      trimStart before ++ (fence ++ (middle ++ (fence ++ trimEnd after))) := by
  have last (front after : List Char) :
      front ++ (fence ++ (middle ++ (fence ++ after))) =
        front ++ (fence ++ (middle ++ ['`', '`'])) ++ '`' :: after := by
    simp only [fence, List.append_assoc, List.cons_append, List.nil_append]
  have opened : trimStart (before ++ (fence ++ (middle ++ (fence ++ after)))) =
      trimStart before ++ (fence ++ (middle ++ (fence ++ after))) :=
    trimStart_append_cons _ _ (by decide)
  rw [trim, opened, last, trimEnd_append_cons _ _ (by decide), last]

/-- Trimming takes the blanks around an object away, and no more. -/
theorem trim_of_blanks {lead trail : List Char} (leading : ∀ c ∈ lead, isSpace c = true)
    (trailing : ∀ c ∈ trail, isSpace c = true) (body : List Char) :
    trim (lead ++ '\x7b' :: (body ++ '\x7d' :: trail)) = '\x7b' :: (body ++ ['\x7d']) := by
  rw [trim_around, (trimStart_eq_nil_iff lead).mpr leading, (trimEnd_eq_nil_iff trail).mpr trailing,
    List.nil_append]

/-- An optional tag is taken away before blanks and an object. -/
theorem withoutLead_json {tag lead : List Char} (tagged : tag = [] ∨ tag = "json".toList)
    (leading : ∀ c ∈ lead, isSpace c = true) (rest : List Char) :
    withoutLead "json".toList (tag ++ (lead ++ '\x7b' :: rest)) = lead ++ '\x7b' :: rest := by
  rcases tagged with rfl | rfl
  · have other : ("json".toList).isPrefixOf (lead ++ '\x7b' :: rest) = false := by
      cases lead with
      | nil => rfl
      | cons c lead =>
          have space := leading c List.mem_cons_self
          have apart : ('j' == c) = false := by
            rw [beq_eq_false_iff_ne]
            rintro rfl
            exact absurd space (by decide)
          exact Bool.and_eq_false_iff.mpr (.inl apart)
    rw [List.nil_append, withoutLead, other, if_neg Bool.false_ne_true]
  · have begins : ("json".toList).isPrefixOf ("json".toList ++ (lead ++ '\x7b' :: rest)) = true :=
      List.isPrefixOf_iff_prefix.mpr (List.prefix_append _ _)
    rw [withoutLead, if_pos begins, List.drop_left]

/-- The first fenced block ends at the fence behind an object. -/
theorem splitAtMark?_fence_of_object {lead trail body : List Char}
    (leading : ∀ c ∈ lead, isSpace c = true) (trailing : ∀ c ∈ trail, isSpace c = true)
    (whole : ¬ fence <:+: '\x7b' :: (body ++ ['\x7d'])) (after : List Char) :
    splitAtMark? fence ((lead ++ '\x7b' :: (body ++ '\x7d' :: trail)) ++ (fence ++ after)) =
      some (lead ++ '\x7b' :: (body ++ '\x7d' :: trail), after) := by
  have noTick (blanks : List Char) (are : ∀ c ∈ blanks, isSpace c = true) : '`' ∉ blanks :=
    fun member => absurd (are _ member) (by decide)
  have unquoted : ¬ fence <:+: '\x7b' :: body := fun inside =>
    whole (inside.trans (List.prefix_append ('\x7b' :: body) ['\x7d']).isInfix)
  have beyond : splitAtMark? fence (trail ++ (fence ++ after)) = some (trail, after) :=
    splitAtMark?_append_mark (noTick trail trailing) after
  have object : splitAtMark? fence (('\x7b' :: body) ++ '\x7d' :: (trail ++ (fence ++ after))) =
      some (('\x7b' :: body) ++ '\x7d' :: trail, after) := by
    rw [splitAtMark?_append_cons unquoted (by decide), beyond, Option.map_some]
  have spelled : (lead ++ '\x7b' :: (body ++ '\x7d' :: trail)) ++ (fence ++ after) =
      lead ++ (('\x7b' :: body) ++ '\x7d' :: (trail ++ (fence ++ after))) := by
    simp only [List.append_assoc, List.cons_append]
  have skipped : splitAtMark? fence
      (lead ++ (('\x7b' :: body) ++ '\x7d' :: (trail ++ (fence ++ after)))) =
        (splitAtMark? fence (('\x7b' :: body) ++ '\x7d' :: (trail ++ (fence ++ after)))).map
          fun (between, after) => (lead ++ between, after) :=
    splitAtMark?_append (noTick lead leading) _
  rw [spelled, skipped, object, Option.map_some, List.cons_append]

/-- The object of the first fenced block is taken, whatever follows the block. -/
theorem objectPart?_of_fenced {tag lead trail body : List Char} (quiet : '`' ∉ before)
    (tagged : tag = [] ∨ tag = "json".toList) (leading : ∀ c ∈ lead, isSpace c = true)
    (trailing : ∀ c ∈ trail, isSpace c = true)
    (whole : ¬ fence <:+: '\x7b' :: (body ++ ['\x7d'])) (after : List Char) :
    objectPart? (before ++ (fence ++ ((tag ++ (lead ++ '\x7b' :: (body ++ '\x7d' :: trail))) ++
      (fence ++ after)))) = some ('\x7b' :: (body ++ ['\x7d'])) := by
  have first : splitAtMark? fence (trimStart before ++ (fence ++
      ((tag ++ (lead ++ '\x7b' :: (body ++ '\x7d' :: trail))) ++ (fence ++ trimEnd after)))) =
        some (trimStart before,
          (tag ++ (lead ++ '\x7b' :: (body ++ '\x7d' :: trail))) ++ (fence ++ trimEnd after)) :=
    splitAtMark?_append_mark (fun member => quiet (mem_of_mem_trimStart member)) _
  have second := splitAtMark?_fence_of_object leading trailing whole (trimEnd after)
  have untagged : withoutLead "json".toList
      ((tag ++ (lead ++ '\x7b' :: (body ++ '\x7d' :: trail))) ++ (fence ++ trimEnd after)) =
        (lead ++ '\x7b' :: (body ++ '\x7d' :: trail)) ++ (fence ++ trimEnd after) := by
    have taken := withoutLead_json tagged leading
      ((body ++ '\x7d' :: trail) ++ (fence ++ trimEnd after))
    simpa only [List.append_assoc, List.cons_append] using taken
  rw [← untagged] at second
  rw [objectPart?, trim_fences, fencedObject?_of_cuts first second,
    trim_of_blanks leading trailing, List.head?_cons, if_pos rfl, Option.some_or]

end Fences

end Locution
