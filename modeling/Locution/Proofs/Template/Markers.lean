import Locution.Proofs.Template.Segmentation

/-! # The markers of the standard rules

Under the standard rules the slots of a template are told by the characters around them alone
(`Marks`). A marker is never overlooked, since the characters that begin one stand in no other
marker, and it is read wherever it stands but for two cases: the possessive counts between words
only, and of a run of dots every three are read together, from the left
(`holdsSlot_standard_iff`).
-/

namespace Locution

open Text

/-- Whether segments hold a slot between two texts. -/
def HoldsSlot (parts : List Segment) (before : List Char) (kind : Slot)
    (token after : List Char) : Prop :=
  ∃ front back, parts = front ++ .slot kind token :: back ∧
    front.flatMap Segment.written = before ∧ back.flatMap Segment.written = after

/-- Whether segments hold a character of plain text between two texts. -/
def HoldsPlain (parts : List Segment) (before : List Char) (c : Char)
    (after : List Char) : Prop :=
  ∃ front lead trail back, parts = front ++ .literal (lead ++ c :: trail) :: back ∧
    front.flatMap Segment.written ++ lead = before ∧
    trail ++ back.flatMap Segment.written = after

section Holding

variable {rules : List SlotRule} {template before token after : List Char} {kind : Slot} {c : Char}
  {parts : List Segment}

/-- A slot stays where it is when a segment is put in front. -/
theorem HoldsSlot.cons (held : HoldsSlot parts before kind token after) (segment : Segment) :
    HoldsSlot (segment :: parts) (segment.written ++ before) kind token after := by
  obtain ⟨front, back, rfl, rfl, rfl⟩ := held
  exact ⟨segment :: front, back, rfl, List.flatMap_cons, rfl⟩

theorem HoldsPlain.cons (held : HoldsPlain parts before c after) (segment : Segment) :
    HoldsPlain (segment :: parts) (segment.written ++ before) c after := by
  obtain ⟨front, lead, trail, back, rfl, rfl, rfl⟩ := held
  refine ⟨segment :: front, lead, trail, back, rfl, ?_, rfl⟩
  rw [List.flatMap_cons, List.append_assoc]

/-- Every character stands in plain text or in the token of a slot. -/
theorem holdsPlain_or_holdsSlot
    (split : parts.flatMap Segment.written = before ++ c :: after) :
    HoldsPlain parts before c after ∨
      ∃ earlier kind lead trail later, HoldsSlot parts earlier kind (lead ++ c :: trail) later ∧
        before = earlier ++ lead ∧ after = trail ++ later := by
  induction parts generalizing before with
  | nil => simp at split
  | cons segment parts ih =>
      have behind {before : List Char}
          (rest : parts.flatMap Segment.written = before ++ c :: after) :
          HoldsPlain (segment :: parts) (segment.written ++ before) c after ∨
            ∃ earlier kind lead trail later,
              HoldsSlot (segment :: parts) earlier kind (lead ++ c :: trail) later ∧
                segment.written ++ before = earlier ++ lead ∧ after = trail ++ later := by
        rcases ih rest with plain | ⟨earlier, kind, lead, trail, later, held, rfl, rfl⟩
        · exact .inl (plain.cons segment)
        · exact .inr ⟨_, kind, lead, trail, later, held.cons segment,
            (List.append_assoc _ _ _).symm, rfl⟩
      rw [List.flatMap_cons] at split
      rcases List.append_eq_append_iff.mp split with ⟨inner, rfl, rest⟩ | ⟨inner, inside, rest⟩
      · exact behind rest
      · cases inner with
        | nil =>
            rw [List.append_nil] at inside
            rw [← inside, ← List.append_nil segment.written]
            exact behind rest.symm
        | cons d trail =>
            obtain ⟨rfl, rfl⟩ := List.cons.inj rest
            cases segment with
            | literal text =>
                obtain rfl : text = before ++ c :: trail := inside
                exact .inl ⟨[], before, trail, parts, rfl, rfl, rfl⟩
            | slot kind token =>
                obtain rfl : token = before ++ c :: trail := inside
                exact .inr ⟨[], kind, before, trail, _, ⟨[], parts, rfl, rfl, rfl⟩, rfl, rfl⟩

/-- Around a slot stand the parts of the template before and behind it. -/
theorem HoldsSlot.split (parted : Segmentation rules template parts)
    (held : HoldsSlot parts before kind token after) : template = before ++ (token ++ after) := by
  obtain ⟨front, back, rfl, rfl, rfl⟩ := held
  rw [← parted.flatMap_written, List.flatMap_append, List.flatMap_cons, Segment.written]

/-- The token of a slot is read there by the first rule that reads one. -/
theorem HoldsSlot.readsFirst (parted : Segmentation rules template parts)
    (held : HoldsSlot parts before kind token after) : ReadsFirst rules kind token after := by
  obtain ⟨front, back, rfl, rfl, rfl⟩ := held
  exact parted.readsFirst

/-- No rule reads a marker in plain text at a character of no word, or behind one. -/
theorem HoldsPlain.unopened (parted : Segmentation rules template parts)
    (held : HoldsPlain parts before c after)
    (place : isTemplateWordChar c = false ∨ before.getLast?.any isTemplateWordChar = false) :
    ∀ rule ∈ rules, ¬ rule.Opens (c :: after) := by
  obtain ⟨front, lead, trail, back, rfl, rfl, rfl⟩ := held
  exact parted.isPlainBefore.unmarked lead c trail rfl (isScanPlace_of_append (.inr place))

/-- A slot that begins a word directly behind another word stands behind another slot. -/
theorem HoldsSlot.exists_preceding (marked : ∀ rule ∈ rules, rule.token ≠ [])
    (parted : Segmentation rules template parts)
    (held : HoldsSlot parts before kind token after) (opens : opensWithWord token = true)
    (word : before.getLast?.any isTemplateWordChar = true) :
    ∃ earlier other lead, HoldsSlot parts earlier other lead (token ++ after) ∧
      lead.getLast?.any isTemplateWordChar = true := by
  obtain ⟨front, back, rfl, rfl, rfl⟩ := held
  rcases List.eq_nil_or_concat front with rfl | ⟨init, last, rfl⟩
  · cases word
  · rw [List.concat_eq_append] at parted word ⊢
    rw [List.append_assoc] at parted
    rw [List.flatMap_append, List.flatMap_singleton] at word
    cases last with
    | literal text =>
        have plain := parted.isPlainBefore
        have ends : text.getLast?.any isTemplateWordChar = true := by
          rwa [Segment.written, List.getLast?_append_of_ne_nil _ plain.filled] at word
        rw [plain.whole kind token back rfl ends] at opens
        cases opens
    | slot other lead =>
        have held : HoldsSlot (init ++ .slot other lead :: .slot kind token :: back)
            (init.flatMap Segment.written) other lead
            (token ++ back.flatMap Segment.written) :=
          ⟨init, .slot kind token :: back, rfl, rfl, List.flatMap_cons⟩
        have filled : lead ≠ [] := (held.readsFirst parted).ne_nil marked
        refine ⟨init.flatMap Segment.written, other, lead, ?_, ?_⟩
        · rw [List.append_assoc]
          exact held
        · rwa [Segment.written, List.getLast?_append_of_ne_nil _ filled] at word

end Holding

/-- The number of dots at the beginning of a text. -/
def openingDots (text : List Char) : Nat :=
  (text.takeWhile (· == '.')).length

/-- The number of dots at the end of a text. -/
def closingDots (text : List Char) : Nat :=
  openingDots text.reverse

/-- Dots in front of a text open it with as many dots more. -/
theorem openingDots_replicate_append (count : Nat) (text : List Char) :
    openingDots (List.replicate count '.' ++ text) = count + openingDots text := by
  rw [openingDots, List.takeWhile_append_of_pos fun c inside => by
    rw [List.eq_of_mem_replicate inside, beq_self_eq_true], List.length_append,
    List.length_replicate]
  rfl

theorem openingDots_eq_zero {text : List Char} (other : text.head? ≠ some '.') :
    openingDots text = 0 := by
  cases text with
  | nil => rfl
  | cons c text =>
      have different : (c == '.') = false := beq_false_of_ne fun same => other (congrArg some same)
      simp only [openingDots, List.takeWhile_cons, different, Bool.false_eq_true, ↓reduceIte,
        List.length_nil]

/-- Dots behind a text close it with as many dots more. -/
theorem closingDots_append_replicate (text : List Char) (count : Nat) :
    closingDots (text ++ List.replicate count '.') = closingDots text + count := by
  rw [closingDots, List.reverse_append, List.reverse_replicate, openingDots_replicate_append,
    Nat.add_comm, closingDots]

theorem closingDots_eq_zero {text : List Char} (other : text.getLast? ≠ some '.') :
    closingDots text = 0 :=
  openingDots_eq_zero (by rwa [List.head?_reverse])

/-- Whatever stands in front of it, a text that ends with another character closes with no dots. -/
theorem closingDots_append_eq_zero {text : List Char} (filled : text ≠ [])
    (other : text.getLast? ≠ some '.') (front : List Char) : closingDots (front ++ text) = 0 := by
  apply closingDots_eq_zero
  rwa [List.getLast?_append_of_ne_nil _ filled]

/-- Whether a token between two texts is a marker for a kind of slot. Of the dots that follow each
other every third one begins a marker. -/
def Marks (before : List Char) (kind : Slot) (token after : List Char) : Prop :=
  match kind with
  | .someone => SameLetters "(someone)".toList token ∨ SameLetters "(somebody)".toList token
  | .something => SameLetters "(something)".toList token
  | .possessive => SameLetters "one's".toList token ∧
      before.getLast?.any isTemplateWordChar = false ∧ opensWithWord after = false
  | .tilde => token = "~".toList
  | .ellipsis => token = "...".toList ∧ 3 ∣ closingDots before

theorem token_ne_nil_of_mem_standardRules : ∀ rule ∈ standardRules, rule.token ≠ [] := by
  decide

/-- The markers are given in small letters. -/
theorem map_toLower_of_mem_standardRules :
    ∀ rule ∈ standardRules, rule.token.map Char.toLower = rule.token := by
  decide +kernel

/-- No marker begins another one: all pairs of them are compared. -/
theorem eq_of_prefix_of_mem_standardRules :
    ∀ rule ∈ standardRules, ∀ other ∈ standardRules, rule.token <+: other.token →
      rule = other := by
  decide +kernel

/-- The characters that begin markers stand in no other marker, but for dots, and for the letters
inside its words. -/
theorem inside_of_mem_standardRules :
    ∀ rule ∈ standardRules, ∀ place ∈ List.range rule.token.length, place = 0 ∨
      ((rule.token.drop place).head?.all (fun c => c != '(' && c != '~') = true ∧
        ((rule.token.drop place).head? = some 'o' →
          (rule.token.take place).getLast?.any isTemplateWordChar = true)) := by
  decide +kernel

/-- A marker that ends in a word counts between words only. -/
theorem wholeWord_of_mem_standardRules :
    ∀ rule ∈ standardRules, rule.token.getLast?.any isTemplateWordChar = true →
      rule.wholeWord = true := by
  decide +kernel

/-- Only an ellipsis is marked by dots. -/
theorem eq_of_dot_of_mem_standardRules :
    ∀ rule ∈ standardRules, rule.slot = .ellipsis ∨ '.' ∈ rule.token →
      rule = ⟨"...".toList, .ellipsis, false⟩ := by
  decide +kernel

section Standard

variable {rule other : SlotRule} {template before token after : List Char} {kind : Slot}
  {parts : List Segment}

/-- A token that a standard rule reads is its marker, in small letters. -/
theorem SlotRule.Reads.map_toLower (listed : rule ∈ standardRules)
    (reads : rule.Reads token after) : token.map Char.toLower = rule.token := by
  rw [← sameLetters_iff.mp reads.1, map_toLower_of_mem_standardRules rule listed]

/-- Two of the standard rules read no marker at one place. -/
theorem SlotRule.Opens.unique {text : List Char} (listed : rule ∈ standardRules)
    (otherListed : other ∈ standardRules) (opens : rule.Opens text)
    (otherOpens : other.Opens text) : rule = other := by
  have begins {rule : SlotRule} (listed : rule ∈ standardRules) (opens : rule.Opens text) :
      rule.token <+: text.map Char.toLower := by
    obtain ⟨token, after, rfl, reads⟩ := opens
    rw [List.map_append, reads.map_toLower listed]
    exact List.prefix_append _ _
  rcases List.prefix_or_prefix_of_prefix (begins listed opens) (begins otherListed otherOpens) with
    shorter | longer
  · exact eq_of_prefix_of_mem_standardRules rule listed other otherListed shorter
  · exact (eq_of_prefix_of_mem_standardRules other otherListed rule listed longer).symm

/-- A token with a dot is three dots, and so is the token of an ellipsis. -/
theorem ReadsFirst.eq_dots (first : ReadsFirst standardRules kind token after)
    (dot : kind = .ellipsis ∨ '.' ∈ token) : kind = .ellipsis ∧ token = "...".toList := by
  obtain ⟨rule, listed, rfl, reads⟩ := first.exists_rule
  have lowered := reads.map_toLower listed
  have inside : rule.slot = .ellipsis ∨ '.' ∈ rule.token :=
    dot.imp_right fun inside => lowered ▸ List.mem_map.mpr ⟨'.', inside, rfl⟩
  obtain rfl := eq_of_dot_of_mem_standardRules rule listed inside
  obtain ⟨_, rfl, second⟩ := exists_eq_cons_of_map_toLower rfl lowered
  obtain ⟨_, rfl, third⟩ := exists_eq_cons_of_map_toLower rfl second
  obtain ⟨_, rfl, nothing⟩ := exists_eq_cons_of_map_toLower rfl third
  rw [List.map_eq_nil_iff.mp nothing]
  exact ⟨rfl, rfl⟩

/-- Three dots are read wherever they stand. -/
theorem exists_opens_dots (after : List Char) :
    ∃ rule ∈ standardRules, rule.Opens ("...".toList ++ after) :=
  ⟨⟨"...".toList, .ellipsis, false⟩, by decide, "...".toList, after, rfl,
    sameLetters_iff.mpr rfl, nofun⟩

/-- A marker that is read where slots are looked for, and not inside the token of another slot, is a
slot. -/
theorem holdsSlot_of_reads (parted : Segmentation standardRules template parts)
    (listed : rule ∈ standardRules) (reads : rule.Reads token after)
    (split : template = before ++ (token ++ after))
    (place : opensWithWord token = false ∨ before.getLast?.any isTemplateWordChar = false)
    (outside : ∀ earlier kind lead c trail later, token.head? = some c → lead ≠ [] →
      before = earlier ++ lead → ¬ HoldsSlot parts earlier kind (lead ++ c :: trail) later) :
    HoldsSlot parts before rule.slot token after := by
  have opens : rule.Opens (token ++ after) := ⟨token, after, rfl, reads⟩
  obtain ⟨c, token, rfl⟩ := List.exists_cons_of_ne_nil
    (reads.ne_nil (token_ne_nil_of_mem_standardRules rule listed))
  have written : parts.flatMap Segment.written = before ++ c :: (token ++ after) := by
    rw [parted.flatMap_written, split, List.cons_append]
  rcases holdsPlain_or_holdsSlot written with
    plain | ⟨earlier, kind, lead, trail, later, held, rfl, rest⟩
  · exact absurd opens (plain.unopened parted place rule listed)
  · cases lead with
    | cons d lead => exact absurd held (outside _ _ _ _ _ _ rfl (List.cons_ne_nil _ _) rfl)
    | nil =>
        rw [List.nil_append] at held
        rw [List.append_nil]
        obtain ⟨other, otherListed, rfl, otherReads⟩ := (held.readsFirst parted).exists_rule
        have otherOpens : other.Opens (c :: token ++ after) :=
          ⟨c :: trail, later, by rw [List.cons_append, rest, List.cons_append], otherReads⟩
        obtain rfl := SlotRule.Opens.unique listed otherListed opens otherOpens
        have size := reads.length_eq.symm.trans otherReads.length_eq
        obtain ⟨rfl, rfl⟩ := List.append_inj rest (Nat.succ.inj size)
        exact held

/-- The dots before an ellipsis come in threes. -/
theorem three_dvd_closingDots {front back : List Segment} {token : List Char}
    (parted : Segmentation standardRules template (front ++ .slot .ellipsis token :: back)) :
    3 ∣ closingDots (front.flatMap Segment.written) := by
  induction front using List.reverseRecOn generalizing token back with
  | nil => exact Nat.dvd_zero 3
  | append_singleton init last ih =>
      obtain ⟨_, rfl⟩ := parted.readsFirst.eq_dots (.inl rfl)
      rw [List.append_assoc, List.singleton_append] at parted
      rw [List.flatMap_append, List.flatMap_singleton]
      cases last with
      | literal text =>
          have plain := parted.isPlainBefore
          suffices other : text.getLast? ≠ some '.' by
            rw [Segment.written, closingDots_append_eq_zero plain.filled other]
            exact Nat.dvd_zero 3
          intro ends
          obtain ⟨lead, rfl⟩ := List.getLast?_eq_some_iff.mp ends
          -- the dot before the token would begin a marker
          obtain ⟨rule, listed, opens⟩ := exists_opens_dots ('.' :: back.flatMap Segment.written)
          exact plain.unmarked lead '.' [] rfl (.inr (.inl rfl)) rule listed opens
      | slot kind lead =>
          have first := parted.readsFirst
          by_cases dot : '.' ∈ lead
          · obtain ⟨rfl, rfl⟩ := first.eq_dots (.inr dot)
            have counted := closingDots_append_replicate (init.flatMap Segment.written) 3
            exact (Nat.dvd_add (ih parted) (Nat.dvd_refl 3)).trans (dvd_of_eq counted.symm)
          · have filled := first.ne_nil token_ne_nil_of_mem_standardRules
            have other : lead.getLast? ≠ some '.' := fun ends => dot (List.mem_of_getLast? ends)
            rw [Segment.written, closingDots_append_eq_zero filled other]
            exact Nat.dvd_zero 3

/-- An ellipsis stands behind dots that are read by threes. -/
theorem HoldsSlot.three_dvd_closingDots (parted : Segmentation standardRules template parts)
    (held : HoldsSlot parts before .ellipsis token after) : 3 ∣ closingDots before := by
  obtain ⟨front, back, rfl, rfl, rfl⟩ := held
  exact Locution.three_dvd_closingDots parted

/-- Whether a text ends with a word does not depend on the case of letters. -/
theorem any_getLast?_map_toLower (text : List Char) :
    (text.map Char.toLower).getLast?.any isTemplateWordChar =
      text.getLast?.any isTemplateWordChar := by
  simp only [List.getLast?_map, Option.any_map, isTemplateWordChar_toLower]

/-- A slot that begins a word does not stand in the middle of one. -/
theorem HoldsSlot.any_getLast?_eq_false (parted : Segmentation standardRules template parts)
    (held : HoldsSlot parts before kind token after) (opens : opensWithWord token = true) :
    before.getLast?.any isTemplateWordChar = false := by
  rw [Bool.eq_false_iff]
  intro word
  obtain ⟨earlier, kind, lead, preceding, ends⟩ :=
    held.exists_preceding token_ne_nil_of_mem_standardRules parted opens word
  obtain ⟨rule, listed, _, reads⟩ := (preceding.readsFirst parted).exists_rule
  rw [← any_getLast?_map_toLower, reads.map_toLower listed] at ends
  have stops := reads.2 (wholeWord_of_mem_standardRules rule listed ends)
  obtain ⟨c, token, rfl⟩ := List.exists_cons_of_ne_nil
    ((held.readsFirst parted).ne_nil token_ne_nil_of_mem_standardRules)
  exact Bool.false_ne_true (stops.symm.trans opens)

/-- Every slot stands at a marker for its kind. -/
theorem HoldsSlot.marks (parted : Segmentation standardRules template parts)
    (held : HoldsSlot parts before kind token after) : Marks before kind token after := by
  have first := held.readsFirst parted
  obtain ⟨rule, listed, rfl, reads⟩ := first.exists_rule
  have lowered := reads.map_toLower listed
  simp only [standardRules, List.mem_cons, List.not_mem_nil, or_false] at listed
  rcases listed with rfl | rfl | rfl | rfl | rfl | rfl
  · exact .inl reads.1
  · exact .inr reads.1
  · exact reads.1
  · have opens : opensWithWord token = true := by
      rw [← opensWithWord_map_toLower, lowered]
      rfl
    exact ⟨reads.1, held.any_getLast?_eq_false parted opens, reads.2 rfl⟩
  · exact ⟨(first.eq_dots (.inl rfl)).2, held.three_dvd_closingDots parted⟩
  · obtain ⟨_, rfl, nothing⟩ := exists_eq_cons_of_map_toLower rfl lowered
    rw [List.map_eq_nil_iff.mp nothing]
    rfl

/-- What stands inside the token of a slot begins no marker but one of dots or one of a word, and
the word has gone on up to there. -/
theorem HoldsSlot.inside {lead trail : List Char} (filled : lead ≠ [])
    (parted : Segmentation standardRules template parts)
    (held : HoldsSlot parts before kind (lead ++ c :: trail) after) :
    c ≠ '(' ∧ c ≠ '~' ∧ (c.toLower = 'o' → lead.getLast?.any isTemplateWordChar = true) := by
  obtain ⟨rule, listed, _, reads⟩ := (held.readsFirst parted).exists_rule
  have lowered := reads.map_toLower listed
  rw [List.map_append, List.map_cons] at lowered
  have place : lead.length ∈ List.range rule.token.length := by
    rw [List.mem_range, ← lowered, List.length_append, List.length_map, List.length_cons]
    omega
  rcases inside_of_mem_standardRules rule listed _ place with start | ⟨plain, word⟩
  · exact absurd (List.length_eq_zero_iff.mp start) filled
  · rw [← lowered, List.drop_left' (List.length_map _), List.head?_cons] at plain word
    rw [List.take_left' (List.length_map _), any_getLast?_map_toLower] at word
    have other : c.toLower ≠ '(' ∧ c.toLower ≠ '~' := by simpa using plain
    refine ⟨?_, ?_, fun same => word (congrArg some same)⟩
    · rintro rfl
      exact other.1 rfl
    · rintro rfl
      exact other.2 rfl

/-- A slot with a dot in its token is an ellipsis behind dots in threes. -/
theorem HoldsSlot.dots {lead trail : List Char}
    (parted : Segmentation standardRules template parts)
    (held : HoldsSlot parts before kind (lead ++ '.' :: trail) after) :
    kind = .ellipsis ∧ 3 ∣ closingDots before ∧ lead = List.replicate lead.length '.' ∧
      trail = List.replicate trail.length '.' ∧ lead.length + trail.length = 2 := by
  obtain ⟨rfl, dots⟩ := (held.readsFirst parted).eq_dots (.inr (by simp))
  have all : ∀ d ∈ lead ++ '.' :: trail, d = '.' := by
    rw [dots]
    simp
  have size := congrArg List.length dots
  rw [List.length_append, List.length_cons] at size
  refine ⟨rfl, held.three_dvd_closingDots parted, ?_, ?_, Nat.succ.inj size⟩
  · exact List.eq_replicate_length.mpr fun d inside => all d (List.mem_append_left _ inside)
  · exact List.eq_replicate_length.mpr fun d inside =>
      all d (List.mem_append_right _ (List.mem_cons_of_mem _ inside))

/-- A marker that begins with a bracket or a tilde is read wherever it stands. -/
theorem holdsSlot_of_sign {sign : Char} (parted : Segmentation standardRules template parts)
    (listed : rule ∈ standardRules) (free : rule.wholeWord = false)
    (begins : rule.token.head? = some sign) (bracket : sign = '(' ∨ sign = '~')
    (same : SameLetters rule.token token) (split : template = before ++ (token ++ after)) :
    HoldsSlot parts before rule.slot token after := by
  obtain ⟨rest, written⟩ := List.head?_eq_some_iff.mp begins
  have reads : rule.Reads token after := ⟨same, fun whole => absurd (free.symm.trans whole) nofun⟩
  have gap : isGap sign = true := by rcases bracket with rfl | rfl <;> rfl
  have other : isTemplateWordChar sign = false := by rcases bracket with rfl | rfl <;> rfl
  obtain ⟨token, rfl, _⟩ :=
    exists_eq_cons_of_map_toLower gap ((reads.map_toLower listed).trans written)
  refine holdsSlot_of_reads parted listed reads split (.inl other) ?_
  intro earlier kind lead c trail later head filled _ held
  obtain rfl : sign = c := Option.some.inj head
  obtain ⟨unbracketed, untilded, _⟩ := held.inside filled parted
  exact bracket.elim unbracketed untilded

/-- Wherever a marker for a kind stands, there is a slot of that kind. -/
theorem Marks.holdsSlot (parted : Segmentation standardRules template parts)
    (marks : Marks before kind token after) (split : template = before ++ (token ++ after)) :
    HoldsSlot parts before kind token after := by
  cases kind with
  | someone =>
      rcases marks with same | same
      · have listed : (⟨"(someone)".toList, .someone, false⟩ : SlotRule) ∈ standardRules := by
          decide
        exact holdsSlot_of_sign parted listed rfl rfl (.inl rfl) same split
      · have listed : (⟨"(somebody)".toList, .someone, false⟩ : SlotRule) ∈ standardRules := by
          decide
        exact holdsSlot_of_sign parted listed rfl rfl (.inl rfl) same split
  | something =>
      have listed : (⟨"(something)".toList, .something, false⟩ : SlotRule) ∈ standardRules := by
        decide
      exact holdsSlot_of_sign parted listed rfl rfl (.inl rfl) marks split
  | tilde =>
      have listed : (⟨"~".toList, .tilde, false⟩ : SlotRule) ∈ standardRules := by decide
      obtain rfl : token = "~".toList := marks
      exact holdsSlot_of_sign parted listed rfl rfl (.inr rfl) (sameLetters_iff.mpr rfl) split
  | possessive =>
      obtain ⟨same, starts, ends⟩ := marks
      have reads : (⟨"one's".toList, .possessive, true⟩ : SlotRule).Reads token after :=
        ⟨same, fun _ => ends⟩
      have listed : (⟨"one's".toList, .possessive, true⟩ : SlotRule) ∈ standardRules := by decide
      refine holdsSlot_of_reads parted listed reads split (.inr starts) ?_
      rintro earlier kind lead c trail later head filled rfl held
      have small : c.toLower = 'o' := by
        have lowered := congrArg List.head? (reads.map_toLower listed)
        rw [List.head?_map, head] at lowered
        exact Option.some.inj lowered
      have word := (held.inside filled parted).2.2 small
      rw [List.getLast?_append_of_ne_nil _ filled, word] at starts
      cases starts
  | ellipsis =>
      obtain ⟨rfl, threes⟩ := marks
      have reads : (⟨"...".toList, .ellipsis, false⟩ : SlotRule).Reads "...".toList after :=
        ⟨sameLetters_iff.mpr rfl, nofun⟩
      refine holdsSlot_of_reads parted (by decide) reads split (.inl rfl) ?_
      rintro earlier kind lead c trail later head filled rfl held
      obtain rfl : '.' = c := Option.some.inj head
      -- the dots of the other ellipsis before the marker are one or two
      obtain ⟨_, earlierThrees, dots, _, size⟩ := held.dots parted
      have counted := closingDots_append_replicate earlier lead.length
      rw [← dots] at counted
      have positive := List.length_pos_of_ne_nil filled
      omega

variable {count nth : Nat}

/-- The dots of a run that are read are its first ones, three at a time. -/
theorem holdsSlot_of_dots (parted : Segmentation standardRules template parts)
    (split : template = before ++ (List.replicate count '.' ++ after))
    (starts : before.getLast? ≠ some '.') (read : nth < count / 3) :
    HoldsSlot parts (before ++ List.replicate (3 * nth) '.') .ellipsis "...".toList
      (List.replicate (count - 3 * nth - 3) '.' ++ after) := by
  have counted := closingDots_append_replicate before (3 * nth)
  rw [closingDots_eq_zero starts, Nat.zero_add] at counted
  have marks : Marks (before ++ List.replicate (3 * nth) '.') .ellipsis "...".toList
      (List.replicate (count - 3 * nth - 3) '.' ++ after) :=
    ⟨rfl, (Nat.dvd_mul_right 3 nth).trans (dvd_of_eq counted.symm)⟩
  have run : List.replicate count '.' =
      List.replicate (3 * nth) '.' ++ (List.replicate 3 '.' ++
        List.replicate (count - 3 * nth - 3) '.') := by
    rw [List.replicate_append_replicate, List.replicate_append_replicate]
    congr 1
    omega
  refine marks.holdsSlot parted ?_
  rw [split, run]
  simp only [List.append_assoc]
  rfl

/-- The last dots of a run, fewer than three, are plain text. -/
theorem holdsPlain_of_dots (parted : Segmentation standardRules template parts)
    (split : template = before ++ (List.replicate count '.' ++ after))
    (starts : before.getLast? ≠ some '.') (ends : after.head? ≠ some '.')
    (left : 3 * (count / 3) ≤ nth) (inside : nth < count) :
    HoldsPlain parts (before ++ List.replicate nth '.') '.'
      (List.replicate (count - nth - 1) '.' ++ after) := by
  have run : List.replicate count '.' =
      List.replicate nth '.' ++ '.' :: List.replicate (count - nth - 1) '.' := by
    rw [← List.replicate_succ, List.replicate_append_replicate]
    congr 1
    omega
  have written : parts.flatMap Segment.written = (before ++ List.replicate nth '.') ++
      '.' :: (List.replicate (count - nth - 1) '.' ++ after) := by
    rw [parted.flatMap_written, split, run]
    simp only [List.append_assoc, List.cons_append]
  rcases holdsPlain_or_holdsSlot written with
    plain | ⟨earlier, kind, lead, trail, later, held, splitBefore, splitAfter⟩
  · exact plain
  · -- an ellipsis over this dot would be one of the threes before it
    exfalso
    obtain ⟨_, threes, leadDots, trailDots, size⟩ := held.dots parted
    have countedBefore := congrArg closingDots splitBefore
    rw [leadDots, closingDots_append_replicate, closingDots_append_replicate,
      closingDots_eq_zero starts] at countedBefore
    have countedAfter := congrArg openingDots splitAfter
    rw [trailDots, openingDots_replicate_append, openingDots_replicate_append,
      openingDots_eq_zero ends] at countedAfter
    omega

end Standard

/-- **The slots of a template under the standard rules are the markers that stand in it.** A token
between two texts is a slot of some kind exactly when it is a marker for that kind: a bracketed word
or a tilde wherever it stands, a possessive with no character of a word before or after it, and dots
in threes. Of a run of dots between other characters as many threes as there are become slots, from
the left, and the one or two dots that are left stay plain text. -/
theorem holdsSlot_standard_iff (template : List Char) :
    (∀ before kind token after,
      HoldsSlot (segments standardRules template) before kind token after ↔
        template = before ++ (token ++ after) ∧ Marks before kind token after) ∧
    (∀ before count after, template = before ++ (List.replicate count '.' ++ after) →
      before.getLast? ≠ some '.' → after.head? ≠ some '.' →
        (∀ nth < count / 3, HoldsSlot (segments standardRules template)
          (before ++ List.replicate (3 * nth) '.') .ellipsis "...".toList
          (List.replicate (count - 3 * nth - 3) '.' ++ after)) ∧
        (∀ nth, 3 * (count / 3) ≤ nth → nth < count → HoldsPlain (segments standardRules template)
          (before ++ List.replicate nth '.') '.'
          (List.replicate (count - nth - 1) '.' ++ after))) := by
  have parted := segmentation_segments token_ne_nil_of_mem_standardRules template
  constructor
  · intro before kind token after
    constructor
    · intro held
      exact ⟨held.split parted, held.marks parted⟩
    · rintro ⟨split, marks⟩
      exact marks.holdsSlot parted split
  · intro before count after split starts ends
    constructor
    · intro nth read
      exact holdsSlot_of_dots parted split starts read
    · intro nth left inside
      exact holdsPlain_of_dots parted split starts ends left inside

/-- Of four dots the first three are a slot, and the possessive before them stands between words. -/
theorem holdsSlot_standard_iff_four_dots :
    "one's wait....".toList = "one's wait".toList ++ (List.replicate 4 '.' ++ []) ∧
      "one's wait".toList.getLast? ≠ some '.' ∧ ([] : List Char).head? ≠ some '.' ∧
      HoldsSlot (segments standardRules "one's wait....".toList) "one's wait".toList .ellipsis
        "...".toList ".".toList ∧
      HoldsPlain (segments standardRules "one's wait....".toList) "one's wait...".toList '.' [] ∧
      HoldsSlot (segments standardRules "one's wait....".toList) [] .possessive "one's".toList
        " wait....".toList := by
  have split : "one's wait....".toList =
      "one's wait".toList ++ (List.replicate 4 '.' ++ []) := by decide
  have starts : "one's wait".toList.getLast? ≠ some '.' := by decide
  have ends : ([] : List Char).head? ≠ some '.' := nofun
  obtain ⟨markers, dots⟩ := holdsSlot_standard_iff "one's wait....".toList
  obtain ⟨slots, plain⟩ := dots _ 4 _ split starts ends
  refine ⟨split, starts, ends, slots 0 (by decide), plain 3 (by decide) (by decide), ?_⟩
  exact (markers _ _ _ _).mpr ⟨rfl, sameLetters_iff.mpr rfl, rfl, by decide⟩

end Locution
