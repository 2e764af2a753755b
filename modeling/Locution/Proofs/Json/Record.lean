import Locution.Proofs.Json.NumberText
import Locution.Proofs.Json.StringText

/-! # Written records are read back

A written value begins with a character that is no blank (`skipBlank_written`), so it is found
behind the blanks of a layout. The members of an object fill in a draft one after the other
(`Fills`), and reading the written object goes the same way. So it yields the record of the last
draft (`yields_readRecord`).
-/

namespace Locution.Json

section Opening

/-- Whether a text begins with a character that is no blank. -/
def OpensPlain (text : List Char) : Prop :=
  ∃ c ∈ text.head?, isLayout c = false

/-- What stands behind a text does not change how it begins. -/
theorem OpensPlain.append {text : List Char} (opens : OpensPlain text) (rest : List Char) :
    OpensPlain (text ++ rest) := by
  obtain ⟨c, head, plain⟩ := opens
  refine ⟨c, ?_, plain⟩
  rw [Option.mem_def, List.head?_append, head, Option.some_or]

theorem isLayout_of_isDigit {c : Char} (digit : c.isDigit = true) : isLayout c = false := by
  cases blank : isLayout c with
  | false => rfl
  | true => exact absurd digit (Bool.eq_false_iff.mp (ends_of_isLayout blank).1)

/-- The digits of a number begin with no blank. -/
theorem opensPlain_digitsOf (n : Nat) : OpensPlain (Decimal.digitsOf n) := by
  cases digits : Decimal.digitsOf n with
  | nil => exact absurd digits Nat.toDigits_ne_nil
  | cons c others =>
      exact ⟨c, rfl, isLayout_of_isDigit (isDigit_of_mem_digitsOf (digits ▸ List.mem_cons_self))⟩

theorem OpensPlain.take {text : List Char} (opens : OpensPlain text) {count : Nat}
    (positive : 0 < count) : OpensPlain (text.take count) := by
  obtain ⟨c, head, plain⟩ := opens
  refine ⟨c, ?_, plain⟩
  rwa [List.head?_take, if_neg (Nat.ne_of_gt positive)]

/-- A decimal begins with a digit in either form. -/
theorem opensPlain_text (format : BinaryFormat) (d : Decimal) : OpensPlain (d.text format) := by
  have digits := opensPlain_digitsOf d.digits
  dsimp only [Decimal.text]
  split
  · dsimp only [Decimal.fixedText]
    split
    · exact (digits.append _).append _
    · split
      · rename_i inside
        exact ((digits.take (Nat.sub_pos_of_lt inside)).append _).append _
      · exact ⟨'0', rfl, rfl⟩
  · exact (((digits.take Nat.one_pos).append _).append _).append _

theorem opensPlain_number (number : Number) : OpensPlain number.written := by
  cases number with
  | natural value => exact opensPlain_digitsOf value
  | negative magnitude => exact ⟨'-', rfl, rfl⟩
  | real format minus magnitude =>
      cases minus with
      | true => exact ⟨'-', rfl, rfl⟩
      | false => exact opensPlain_text format _

/-- A written value begins with no blank, in any layout. -/
theorem opensPlain_written (layout : Layout) (level : Nat) (value : Value) :
    OpensPlain (value.written layout level) := by
  cases value with
  | null => exact ⟨'n', rfl, rfl⟩
  | bool value => cases value with
    | true => exact ⟨'t', rfl, rfl⟩
    | false => exact ⟨'f', rfl, rfl⟩
  | number value => exact opensPlain_number value
  | string value => exact ⟨'"', rfl, rfl⟩
  | list items =>
      rw [Value.written]
      cases Value.writtenItems layout (level + 1) items <;> exact ⟨'[', rfl, rfl⟩
  | object members =>
      rw [Value.written]
      cases Value.writtenMembers layout (level + 1) members <;> exact ⟨'\x7b', rfl, rfl⟩

/-- There is nothing to skip before a written value. -/
theorem skipBlank_written (layout : Layout) (level : Nat) (value : Value) (rest : List Char) :
    skipBlank (value.written layout level ++ rest) = value.written layout level ++ rest := by
  obtain ⟨c, head, plain⟩ := (opensPlain_written layout level value).append rest
  obtain ⟨text, spelled⟩ := List.head?_eq_some_iff.mp head
  rw [spelled, skipBlank_cons plain]

end Opening

/-- Whether a layout sets parts apart by blanks only. -/
structure Layout.IsBlank (layout : Layout) : Prop where
  before : ∀ level, AreBlanks (layout.before level)
  colon : ∃ blanks, layout.colon = ':' :: blanks ∧ AreBlanks blanks

/-- The compact layout sets parts apart by nothing. -/
theorem Layout.isBlank_compact : Layout.compact.IsBlank :=
  ⟨fun _ _ member => absurd member List.not_mem_nil, [], rfl,
    fun _ member => absurd member List.not_mem_nil⟩

/-- The spread layout sets parts apart by line feeds and blanks. -/
theorem Layout.isBlank_spread : Layout.spread.IsBlank := by
  refine ⟨fun level c member => ?_, [' '], rfl, fun c member => ?_⟩
  · rcases List.mem_cons.mp member with rfl | space
    · rfl
    · rw [(List.mem_replicate.mp space).2]
      rfl
  · rw [List.mem_singleton.mp member]
    rfl

section Steps

variable {text rest : List Char}

/-- A colon is read behind blanks. -/
theorem yields_readColon (begins : skipBlank text = ':' :: rest) :
    Yields (readColon text) () rest := by
  unfold readColon sign?
  split
  · rename_i colon found
    split at found
    · cases found
    · rename_i c left reached
      obtain ⟨rfl, rfl⟩ := List.cons.inj (begins.symm.trans reached)
      cases found
      exact ⟨_, rfl⟩
  · rename_i missed
    split at missed
    · rename_i nothing
      rw [begins] at nothing
      cases nothing
    · rename_i c left reached
      obtain ⟨rfl, rfl⟩ := List.cons.inj (begins.symm.trans reached)
      cases missed

/-- A closing brace ends the keys. -/
theorem nextKey_close (first : Bool) (begins : skipBlank text = '\x7d' :: rest) :
    ∃ shorter, nextKey first text = .ok (.close, ⟨rest, shorter⟩) := by
  unfold nextKey
  split
  · rename_i nothing
    rw [begins] at nothing
    cases nothing
  · rename_i reached
    obtain ⟨rfl, rfl⟩ := List.cons.inj (begins.symm.trans reached)
    exact ⟨length_of_skipBlank begins, rfl⟩

/-- The first key stands behind the opening brace. -/
theorem nextKey_first (begins : skipBlank text = '"' :: rest) :
    ∃ shorter, nextKey true text = .ok (.element, ⟨rest, shorter⟩) := by
  unfold nextKey
  split
  · rename_i nothing
    rw [begins] at nothing
    cases nothing
  · rename_i reached
    obtain ⟨rfl, rfl⟩ := List.cons.inj (begins.symm.trans reached)
    exact ⟨length_of_skipBlank begins, rfl⟩

/-- A later key stands behind a comma. -/
theorem nextKey_later {between : List Char} (begins : skipBlank text = ',' :: between)
    (opens : skipBlank between = '"' :: rest) :
    ∃ shorter, nextKey false text = .ok (.element, ⟨rest, shorter⟩) := by
  unfold nextKey
  split
  · rename_i nothing
    rw [begins] at nothing
    cases nothing
  · rename_i reached
    obtain ⟨rfl, rfl⟩ := List.cons.inj (begins.symm.trans reached)
    simp only [Char.reduceBEq, Bool.false_eq_true, ↓reduceIte]
    split
    · rename_i nothing
      rw [opens] at nothing
      cases nothing
    · rename_i found
      obtain ⟨_, rfl⟩ := List.cons.inj (opens.symm.trans found)
      exact ⟨Nat.lt_trans (length_of_skipBlank opens) (length_of_skipBlank begins), rfl⟩
    · rename_i found
      cases (List.cons.inj (opens.symm.trans found)).1
    · rename_i other _
      exact absurd opens (other _)

/-- A first key begins with a quotation mark. -/
theorem head?_of_nextKey_first {left : {rest : List Char // rest.length < text.length}}
    (next : nextKey true text = .ok (.element, left)) : (skipBlank text).head? = some '"' := by
  unfold nextKey at next
  split at next
  · cases next
  · rename_i found
    dsimp only at next
    split at next
    · cases next
    · rename_i other
      rw [if_pos rfl] at next
      split at next
      · rename_i quoted
        rw [found, beq_iff_eq.mp quoted]
        rfl
      · cases next

/-- A text is read whole when nothing but blanks is left behind its value. -/
theorem readWhole_of_yields {α : Type} {read : Reader α} {value : α}
    (yields : Yields (read text) value rest) (ended : skipBlank rest = []) :
    readWhole read text = .ok value := by
  obtain ⟨_, took⟩ := yields
  simp only [readWhole, took, ended]

/-- A text with more than blanks behind its value is at fault there. -/
theorem readWhole_of_trailing {α : Type} {read : Reader α} {value : α}
    (yields : Yields (read text) value rest) (more : skipBlank rest ≠ []) :
    readWhole read text = .error (faultAt .trailingText (skipBlank rest)) := by
  obtain ⟨_, took⟩ := yields
  simp only [readWhole, took]

/-- What is read whole leaves nothing but blanks behind its value. -/
theorem exists_yields_of_readWhole {α : Type} {read : Reader α} {value : α}
    (whole : readWhole read text = .ok value) :
    ∃ rest, Yields (read text) value rest ∧ skipBlank rest = [] := by
  rw [readWhole] at whole
  split at whole
  · cases whole
  · rename_i parsed took
    split at whole
    · rename_i ended
      cases whole
      exact ⟨parsed.rest, ⟨parsed.shorter, took⟩, ended⟩
    · cases whole

end Steps

section Objects

variable {σ α : Type}

/-- Whether a field reads a written value into a draft, whatever stands behind it. -/
def Field.Reads (field : Field σ) (layout : Layout) (level : Nat) (draft : σ) (value : Value)
    (next : σ) : Prop :=
  ∀ text rest, EndsNumber rest → skipBlank text = value.written layout level ++ rest →
    Yields (field.read draft text) next rest

/-- Whether the members of an object fill in a draft one after the other, each the field that it
names. -/
inductive Fills (fields : List (Field σ)) (layout : Layout) (level : Nat) :
    σ → List (String × Value) → σ → Prop where
  | nil {draft : σ} : Fills fields layout level draft [] draft
  | cons {draft next last : σ} {key : String} {value : Value} {members : List (String × Value)}
      {field : Field σ} (known : fields.find? (·.name == key) = some field)
      (unfilled : field.filled draft = false) (reads : field.Reads layout level draft value next)
      (others : Fills fields layout level next members last) :
      Fills fields layout level draft ((key, value) :: members) last

variable {shape : Shape σ α} {layout : Layout} {level : Nat} {whole text rest : List Char}

/-- Behind the quotation mark of a member its key is read, then the colon, and then its value is
found behind blanks. -/
theorem exists_read_member (blank : layout.IsBlank) (key : String) (value : Value)
    (left : List Char) :
    ∃ inner, Yields (readString (key.toList.flatMap writtenChar ++
        '"' :: (layout.colon ++ (value.written layout level ++ left)))) key
          (layout.colon ++ (value.written layout level ++ left)) ∧
      Yields (readColon (layout.colon ++ (value.written layout level ++ left))) () inner ∧
      skipBlank inner = value.written layout level ++ left := by
  obtain ⟨blanks, colon, are⟩ := blank.colon
  have reached : skipBlank (layout.colon ++ (value.written layout level ++ left)) =
      ':' :: (blanks ++ (value.written layout level ++ left)) := by
    rw [colon]
    exact skipBlank_cons rfl _
  refine ⟨blanks ++ (value.written layout level ++ left), yields_readString key _,
    yields_readColon reached, ?_⟩
  rw [skipBlank_append are, skipBlank_written]

/-- A member is read into the field that it names. -/
theorem yields_readFieldsFrom_of_key {first : Bool} {draft next : σ} {key : String} {value : Value}
    {field : Field σ} {left : List Char} {result : α} (blank : layout.IsBlank)
    (within : text.length ≤ whole.length)
    (opens : ∃ shorter, nextKey first text = .ok (.element,
      ⟨key.toList.flatMap writtenChar ++
        '"' :: (layout.colon ++ (value.written layout level ++ left)), shorter⟩))
    (known : shape.fields.find? (·.name == key) = some field)
    (unfilled : field.filled draft = false) (reads : field.Reads layout level draft value next)
    (ends : EndsNumber left)
    (others : ∀ within, Yields (readFieldsFrom shape whole false next left within) result rest) :
    Yields (readFieldsFrom shape whole first draft text within) result rest := by
  obtain ⟨_, opened⟩ := opens
  obtain ⟨inner, ⟨_, named⟩, ⟨_, parted⟩, found⟩ := exists_read_member blank key value left
  obtain ⟨_, filled⟩ := reads _ left ends found
  rw [readFieldsFrom]
  simp only [opened, named, known, Option.any_some, unfilled, Bool.false_eq_true, ↓reduceIte,
    readFieldValue, parted, filled]
  exact others _

/-- At the closing brace a complete draft is the record. -/
theorem yields_readFieldsFrom_of_close {first : Bool} {draft : σ}
    (within : text.length ≤ whole.length) (begins : skipBlank text = '\x7d' :: rest)
    (complete : shape.missing? draft = none) :
    Yields (readFieldsFrom shape whole first draft text within) (shape.finish draft) rest := by
  obtain ⟨_, closed⟩ := nextKey_close first begins
  rw [readFieldsFrom]
  simp only [closed, complete]
  exact ⟨_, rfl⟩

/-- What stands behind a member: the other members, each after a comma, and the closing bracket. -/
def afterMember (layout : Layout) (level : Nat) (members : List (String × Value))
    (closing rest : List Char) : List Char :=
  (Value.writtenMembers layout level members).flatMap
      (fun part => [','] ++ layout.before level ++ part) ++ (closing ++ '}' :: rest)

variable {members : List (String × Value)} {closing : List Char}

/-- Neither parts that each stand behind a comma nor a closing bracket go on a number. -/
theorem endsNumber_behind {before : List Char} {bracket : Char} (are : AreBlanks closing)
    (closes : bracket = ']' ∨ bracket = '}') (parts : List (List Char)) (rest : List Char) :
    EndsNumber (parts.flatMap (fun part => [','] ++ before ++ part) ++
      (closing ++ bracket :: rest)) := by
  intro c head
  have sign : c = ',' ∨ c = ']' ∨ c = '}' ∨ isLayout c = true := by
    cases parts with
    | cons part parts => exact .inl (Option.some.inj head).symm
    | nil =>
        right
        cases closing with
        | nil =>
            obtain rfl := Option.some.inj head
            rcases closes with rfl | rfl
            · exact .inl rfl
            · exact .inr (.inl rfl)
        | cons blank blanks =>
            obtain rfl := Option.some.inj head
            exact .inr (.inr (are blank List.mem_cons_self))
  rcases sign with rfl | rfl | rfl | blank
  · decide
  · decide
  · decide
  · exact ends_of_isLayout blank

theorem endsNumber_afterMember (are : AreBlanks closing) :
    EndsNumber (afterMember layout level members closing rest) :=
  endsNumber_behind are (.inr rfl) _ rest

/-- A written member begins with the quotation mark of its key. -/
theorem written_member_append (key : String) (value : Value) (left : List Char) :
    writtenString key ++ layout.colon ++ value.written layout level ++ left =
      '"' :: (key.toList.flatMap writtenChar ++
        '"' :: (layout.colon ++ (value.written layout level ++ left))) := by
  simp only [writtenString, List.append_assoc, List.cons_append, List.nil_append]

/-- Behind a member stands a comma, and then the next member. -/
theorem afterMember_cons (key : String) (value : Value) :
    afterMember layout level ((key, value) :: members) closing rest =
      ',' :: (layout.before level ++ '"' :: (key.toList.flatMap writtenChar ++
        '"' :: (layout.colon ++ (value.written layout level ++
          afterMember layout level members closing rest)))) := by
  rw [afterMember, Value.writtenMembers, List.flatMap_cons, List.append_assoc, List.append_assoc,
    ← afterMember, written_member_append]
  rfl

/-- The members that follow another one are read up to the closing bracket. -/
theorem Fills.yields_afterMember (blank : layout.IsBlank) {draft last : σ}
    (fills : Fills shape.fields layout level draft members last)
    (complete : shape.missing? last = none) (are : AreBlanks closing)
    (within : (afterMember layout level members closing rest).length ≤ whole.length) :
    Yields (readFieldsFrom shape whole false draft (afterMember layout level members closing rest)
      within) (shape.finish last) rest := by
  -- The induction is on the members that are left; each is found behind a comma.
  induction fills with
  | nil =>
      exact yields_readFieldsFrom_of_close within (skipBlank_append_cons are rfl rest) complete
  | @cons draft next last key value members field known unfilled reads others ih =>
      refine yields_readFieldsFrom_of_key blank within ?_ known unfilled reads
        (endsNumber_afterMember are) (ih complete)
      have comma : afterMember layout level ((key, value) :: members) closing rest = _ :=
        afterMember_cons key value
      refine nextKey_later ((congrArg skipBlank comma).trans (skipBlank_cons rfl _)) ?_
      exact skipBlank_append_cons (blank.before level) rfl _

/-- A written object begins with a brace and its first member. -/
theorem written_object_cons (key : String) (value : Value) (rest : List Char) :
    (Value.object ((key, value) :: members)).written layout level ++ rest =
      '\x7b' :: (layout.before (level + 1) ++ '"' :: (key.toList.flatMap writtenChar ++
        '"' :: (layout.colon ++ (value.written layout (level + 1) ++
          afterMember layout (level + 1) members (layout.before level) rest)))) := by
  simp only [Value.written, Value.writtenMembers, enclosed, afterMember, writtenString,
    List.append_assoc, List.cons_append, List.nil_append]

theorem exists_written_object (members : List (String × Value)) (rest : List Char) :
    ∃ inside, (Value.object members).written layout level ++ rest = '\x7b' :: inside := by
  cases members with
  | nil => exact ⟨'\x7d' :: rest, rfl⟩
  | cons member members => exact ⟨_, written_object_cons member.1 member.2 rest⟩

/-- A written object is read as the record of the draft that its members fill in. -/
theorem yields_readRecord (blank : layout.IsBlank) {last : σ}
    (fills : Fills shape.fields layout (level + 1) shape.blank members last)
    (complete : shape.missing? last = none)
    (begins : skipBlank text = (Value.object members).written layout level ++ rest) :
    Yields (readRecord shape text) (shape.finish last) rest := by
  cases fills with
  | nil =>
      have opened : skipBlank text = '\x7b' :: '\x7d' :: rest := begins
      refine yields_readFirst opened (Yields.map_after ?_ '\x7b')
      exact yields_readFieldsFrom_of_close (length_le_self _) (skipBlank_cons rfl rest) complete
  | @cons draft next last key value members field known unfilled reads others =>
      refine yields_readFirst (begins.trans (written_object_cons key value rest))
        (Yields.map_after ?_ '\x7b')
      exact yields_readFieldsFrom_of_key blank (length_le_self _)
        (nextKey_first (skipBlank_append_cons (blank.before (level + 1)) rfl _)) known unfilled
        reads (endsNumber_afterMember (blank.before level))
        (others.yields_afterMember blank complete (blank.before level))

/-- Where no key stands behind the brace, the record is that of the draft. -/
theorem value_of_readFieldsFrom_of_no_key {draft : σ} {within : text.length ≤ whole.length}
    {parsed : Parsed whole α} (unquoted : (skipBlank text).head? ≠ some '"')
    (read : readFieldsFrom shape whole true draft text within = .ok parsed) :
    parsed.value = shape.finish draft := by
  rw [readFieldsFrom] at read
  split at read
  · cases read
  · split at read
    · cases read
    · cases read
      rfl
  · rename_i next
    exact absurd (head?_of_nextKey_first next) unquoted

/-- Behind an opening brace without a key nothing is read into the draft. -/
theorem value_of_readRecord_of_no_key {parsed : Parsed ('\x7b' :: text) α}
    (unquoted : (skipBlank text).head? ≠ some '"')
    (read : readRecord shape ('\x7b' :: text) = .ok parsed) :
    parsed.value = shape.finish shape.blank := by
  have opened : skipBlank ('\x7b' :: text) = '\x7b' :: text := skipBlank_cons rfl text
  cases fields : readFieldsFrom shape text true shape.blank text (length_le_self text) with
  | error fault =>
      have failed : readRecord shape ('\x7b' :: text) = .error fault := by
        refine readFirst_error opened ?_
        simp only [beq_self_eq_true, ↓reduceIte, fields]
        rfl
      rw [failed] at read
      cases read
  | ok filled =>
      have took : Yields (readRecord shape ('\x7b' :: text)) filled.value filled.rest := by
        refine yields_readFirst opened ?_
        simp only [beq_self_eq_true, ↓reduceIte, fields]
        exact ⟨_, rfl⟩
      have value := value_of_readFieldsFrom_of_no_key unquoted fields
      obtain ⟨_, whole⟩ := took
      rw [whole] at read
      rw [← Except.ok.inj read]
      exact value

end Objects

end Locution.Json
