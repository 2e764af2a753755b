import Locution.Proofs.Json.Record

/-! # The form of numbers

A number has a whole part without needless zeros, and may have a sign, places behind a point and a
power of ten (`IsNumber`). Exactly the texts of this form are skipped as numbers
(`IsNumber.yields_skipNumber`, `exists_isNumber_of_skipNumber`), and every number is written in it
(`isNumber_written`).
-/

namespace Locution.Json

/-- Whether a text consists of digits, and of one at least. -/
structure AreDigits (text : List Char) : Prop where
  filled : text ≠ []
  each : ∀ c ∈ text, c.isDigit = true

/-- The digits of a whole number: a zero alone, or digits that begin with none. -/
inductive IsWhole : List Char → Prop where
  | zero : IsWhole ['0']
  | other {digits : List Char} (are : AreDigits digits) (noZero : digits.head? ≠ some '0') :
      IsWhole digits

/-- The places behind the point of a number, if it has any. -/
inductive IsFraction : List Char → Prop where
  | none : IsFraction []
  | places {digits : List Char} (are : AreDigits digits) : IsFraction ('.' :: digits)

/-- The sign of an exponent, if it has one. -/
inductive IsSign : List Char → Prop where
  | none : IsSign []
  | plus : IsSign ['+']
  | minus : IsSign ['-']

/-- The power of ten behind a number, if it has one. -/
inductive IsExponent : List Char → Prop where
  | none : IsExponent []
  | power {letter : Char} {sign digits : List Char} (begins : letter = 'e' ∨ letter = 'E')
      (signed : IsSign sign) (are : AreDigits digits) : IsExponent (letter :: (sign ++ digits))

/-- A number without a sign. -/
inductive IsMagnitude : List Char → Prop where
  | parts {whole fraction exponent : List Char} (isWhole : IsWhole whole)
      (isFraction : IsFraction fraction) (isExponent : IsExponent exponent) :
      IsMagnitude (whole ++ (fraction ++ exponent))

/-- Whether a text is a number. -/
inductive IsNumber : List Char → Prop where
  | plain {text : List Char} (magnitude : IsMagnitude text) : IsNumber text
  | minus {text : List Char} (magnitude : IsMagnitude text) : IsNumber ('-' :: text)

section Digits

variable {digits text rest : List Char}

/-- A row of digits has a first digit. -/
theorem AreDigits.exists_cons (are : AreDigits digits) :
    ∃ first others, digits = first :: others ∧ first.isDigit = true ∧
      ∀ c ∈ others, c.isDigit = true := by
  obtain ⟨first, others, rfl⟩ := List.exists_cons_of_ne_nil are.filled
  obtain ⟨digit, each⟩ := List.forall_mem_cons.mp are.each
  exact ⟨first, others, rfl, digit, each⟩

theorem AreDigits.opensWithDigit_append (are : AreDigits digits) (rest : List Char) :
    opensWithDigit (digits ++ rest) = true := by
  obtain ⟨first, others, rfl, digit, _⟩ := are.exists_cons
  exact digit

theorem areDigits_digitsOf (n : Nat) : AreDigits (Decimal.digitsOf n) :=
  ⟨Nat.toDigits_ne_nil, fun _ => isDigit_of_mem_digitsOf⟩

/-- No digit stands where a number may end. -/
theorem EndsNumber.opensWithDigit_eq_false (ends : EndsNumber rest) :
    opensWithDigit rest = false := by
  cases rest with
  | nil => rfl
  | cons c rest => exact (ends c rfl).1

/-- Digits end before what begins with none. -/
theorem afterDigits_append_of_digits (are : ∀ c ∈ digits, c.isDigit = true)
    (apart : opensWithDigit rest = false) : afterDigits (digits ++ rest) = rest := by
  rw [afterDigits, List.dropWhile_append_of_pos are]
  cases rest with
  | nil => rfl
  | cons c rest => exact List.dropWhile_cons_of_neg (Bool.eq_false_iff.mp apart)

/-- Every text begins with some digits, perhaps with none. -/
theorem exists_digits (text : List Char) :
    ∃ digits, text = digits ++ afterDigits text ∧ ∀ c ∈ digits, c.isDigit = true :=
  ⟨leadingDigits text, List.takeWhile_append_dropWhile.symm,
    List.all_eq_true.mp List.all_takeWhile⟩

/-- A text that opens with a digit begins with a row of digits. -/
theorem exists_areDigits (opens : opensWithDigit text = true) :
    ∃ digits, text = digits ++ afterDigits text ∧ AreDigits digits := by
  cases text with
  | nil => cases opens
  | cons c text =>
      obtain ⟨digits, split, are⟩ := exists_digits text
      have same : afterDigits (c :: text) = afterDigits text := List.dropWhile_cons_of_pos opens
      refine ⟨c :: digits, ?_, List.cons_ne_nil _ _, List.forall_mem_cons.mpr ⟨opens, are⟩⟩
      rw [same, List.cons_append, ← split]

end Digits

section Skipping

variable {text rest : List Char}

/-- Whether skipping a part of a number leaves a rest. -/
def Leaves {limit : Nat} (outcome : Except Fault {rest : List Char // rest.length ≤ limit})
    (rest : List Char) : Prop :=
  ∃ within, outcome = .ok ⟨rest, within⟩

/-- Counting the rest against another limit does not change it. -/
theorem leaves_map_iff {limit larger : Nat}
    {outcome : Except Fault {rest : List Char // rest.length ≤ limit}}
    {f : {rest : List Char // rest.length ≤ limit} → {rest : List Char // rest.length ≤ larger}}
    (keeps : ∀ left, (f left).1 = left.1) : Leaves (outcome.map f) rest ↔ Leaves outcome rest := by
  cases outcome with
  | error fault =>
      constructor <;> rintro ⟨_, impossible⟩ <;> cases impossible
  | ok left =>
      constructor
      · rintro ⟨_, same⟩
        have split := congrArg Subtype.val (Except.ok.inj same)
        obtain rfl : left.1 = rest := (keeps left).symm.trans split
        exact ⟨left.2, rfl⟩
      · rintro ⟨_, same⟩
        obtain rfl : left.1 = rest := congrArg Subtype.val (Except.ok.inj same)
        exact ⟨keeps left ▸ (f left).2, congrArg Except.ok (Subtype.ext (keeps left))⟩

/-- What is taken for the sign of an exponent is one, or nothing. -/
theorem exists_exponentSign (text : List Char) :
    ∃ sign, IsSign sign ∧ text = sign ++ (exponentSign text).2 := by
  unfold exponentSign
  split
  · exact ⟨['+'], .plus, rfl⟩
  · exact ⟨['-'], .minus, rfl⟩
  · exact ⟨[], .none, rfl⟩

/-- The sign of an exponent is taken away, up to the digits. -/
theorem IsSign.exponentSign_append {sign digits : List Char} (signed : IsSign sign)
    (are : AreDigits digits) (rest : List Char) :
    (exponentSign (sign ++ (digits ++ rest))).2 = digits ++ rest := by
  cases signed with
  | plus => rfl
  | minus => rfl
  | none =>
      obtain ⟨first, others, rfl, digit, _⟩ := are.exists_cons
      rw [List.nil_append]
      unfold exponentSign
      split
      · rename_i same
        obtain rfl := (List.cons.inj same).1
        exact absurd digit (by decide)
      · rename_i same
        obtain rfl := (List.cons.inj same).1
        exact absurd digit (by decide)
      · rfl

/-- The power of ten behind a number is skipped, up to the end of the number. -/
theorem IsExponent.leaves_skipTail {exponent : List Char} (is : IsExponent exponent)
    (ends : EndsNumber rest) : Leaves (skipTail (exponent ++ rest)) rest := by
  cases is with
  | none =>
      rw [List.nil_append]
      cases rest with
      | nil => exact ⟨_, rfl⟩
      | cons c rest =>
          obtain ⟨_, _, small, great⟩ := ends c rfl
          simp only [skipTail, beq_eq_false_iff_ne.mpr small, beq_eq_false_iff_ne.mpr great,
            Bool.or_self, Bool.false_eq_true, ↓reduceIte]
          exact ⟨_, rfl⟩
  | @power letter sign digits begins signed are =>
      have letters : (letter == 'e' || letter == 'E') = true := by
        rwa [Bool.or_eq_true, beq_iff_eq, beq_iff_eq]
      have after := signed.exponentSign_append are rest
      rw [List.cons_append, List.append_assoc]
      simp only [skipTail, letters, ↓reduceIte, skipExponent, after,
        are.opensWithDigit_append, afterDigits_append_of_digits are.each
          ends.opensWithDigit_eq_false]
      exact ⟨_, rfl⟩

/-- What is skipped behind the places of a number is a power of ten, or nothing. -/
theorem exists_isExponent_of_skipTail (skipped : Leaves (skipTail text) rest) :
    ∃ exponent, IsExponent exponent ∧ text = exponent ++ rest := by
  obtain ⟨within, skipped⟩ := skipped
  unfold skipTail at skipped
  split at skipped
  · rename_i letter text
    split at skipped
    · rename_i letters
      rw [Bool.or_eq_true, beq_iff_eq, beq_iff_eq] at letters
      obtain ⟨sign, signed, split⟩ := exists_exponentSign text
      unfold skipExponent at skipped
      dsimp only at skipped
      split at skipped
      · rename_i opens
        obtain ⟨digits, places, are⟩ := exists_areDigits opens
        cases skipped
        refine ⟨letter :: (sign ++ digits), .power letters signed are, ?_⟩
        rw [List.cons_append, List.append_assoc, ← places, ← split]
      · cases skipped
    · cases skipped
      exact ⟨[], .none, rfl⟩
  · cases skipped
    exact ⟨[], .none, rfl⟩

/-- A power of ten does not go on digits before it. -/
theorem IsExponent.opensWithDigit_append {exponent : List Char} (is : IsExponent exponent)
    (ends : EndsNumber rest) : opensWithDigit (exponent ++ rest) = false := by
  cases is with
  | none => exact ends.opensWithDigit_eq_false
  | power begins => rcases begins with rfl | rfl <;> rfl

/-- The places of a number and its power of ten are skipped. -/
theorem IsFraction.leaves_skipAfterWhole {fraction exponent : List Char}
    (is : IsFraction fraction) (isExponent : IsExponent exponent) (ends : EndsNumber rest) :
    Leaves (skipAfterWhole (fraction ++ (exponent ++ rest))) rest := by
  have tail := isExponent.leaves_skipTail ends
  cases is with
  | none =>
      have noPoint : ∀ more, exponent ++ rest ≠ '.' :: more := by
        intro more same
        cases isExponent with
        | none =>
            obtain rfl : rest = '.' :: more := same
            exact (ends '.' rfl).2.1 rfl
        | power begins =>
            obtain rfl := (List.cons.inj same).1
            rcases begins with impossible | impossible <;> exact absurd impossible (by decide)
      rw [List.nil_append, skipAfterWhole]
      · exact tail
      · exact noPoint
  | @places digits are =>
      have after := afterDigits_append_of_digits are.each (isExponent.opensWithDigit_append ends)
      rw [List.cons_append, skipAfterWhole, if_pos (are.opensWithDigit_append _)]
      apply (leaves_map_iff (by intro _; rfl)).mpr
      rwa [after]

/-- What is skipped behind the whole part of a number is its places and its power of ten. -/
theorem exists_isFraction_of_skipAfterWhole (skipped : Leaves (skipAfterWhole text) rest) :
    ∃ fraction exponent, IsFraction fraction ∧ IsExponent exponent ∧
      text = fraction ++ (exponent ++ rest) := by
  obtain ⟨within, skipped⟩ := skipped
  unfold skipAfterWhole at skipped
  split at skipped
  · rename_i text
    split at skipped
    · rename_i opens
      obtain ⟨digits, places, are⟩ := exists_areDigits opens
      obtain ⟨exponent, isExponent, split⟩ :=
        exists_isExponent_of_skipTail ((leaves_map_iff (by intro _; rfl)).mp ⟨within, skipped⟩)
      refine ⟨'.' :: digits, exponent, .places are, isExponent, ?_⟩
      rw [List.cons_append, ← split, ← places]
    · cases skipped
  · obtain ⟨exponent, isExponent, split⟩ := exists_isExponent_of_skipTail ⟨within, skipped⟩
    exact ⟨[], exponent, .none, isExponent, split⟩

/-- What stands behind the whole part of a number does not go on its digits. -/
theorem IsFraction.opensWithDigit_append {fraction exponent : List Char}
    (is : IsFraction fraction) (isExponent : IsExponent exponent) (ends : EndsNumber rest) :
    opensWithDigit (fraction ++ (exponent ++ rest)) = false := by
  cases is with
  | none => exact isExponent.opensWithDigit_append ends
  | places => rfl

/-- Skipping without a value yields the rest that it leaves. -/
theorem yields_map_leaves_iff {limit : Nat}
    {outcome : Except Fault {rest : List Char // rest.length ≤ limit}}
    {f : {rest : List Char // rest.length ≤ limit} → Parsed text Unit}
    (keeps : ∀ left, (f left).rest = left.1) :
    Yields (outcome.map f) () rest ↔ Leaves outcome rest := by
  cases outcome with
  | error fault =>
      constructor <;> rintro ⟨_, impossible⟩ <;> cases impossible
  | ok left =>
      constructor
      · rintro ⟨_, same⟩
        obtain rfl : left.1 = rest :=
          (keeps left).symm.trans (congrArg Parsed.rest (Except.ok.inj same))
        exact ⟨left.2, rfl⟩
      · rintro ⟨_, same⟩
        obtain rfl : left.1 = rest := congrArg Subtype.val (Except.ok.inj same)
        rw [← keeps left]
        exact ⟨(f left).shorter, rfl⟩

/-- A number without a sign is skipped. -/
theorem IsMagnitude.yields_skipMagnitude {magnitude : List Char} (is : IsMagnitude magnitude)
    (ends : EndsNumber rest) : Yields (skipMagnitude (magnitude ++ rest)) () rest := by
  obtain ⟨isWhole, isFraction, isExponent⟩ := is
  have behind := isFraction.leaves_skipAfterWhole isExponent ends
  have apart := isFraction.opensWithDigit_append isExponent ends
  rw [List.append_assoc, List.append_assoc]
  cases isWhole with
  | zero =>
      rw [List.singleton_append]
      simp only [skipMagnitude, apart, Bool.false_eq_true, ↓reduceIte]
      exact (yields_map_leaves_iff (by intro _; rfl)).mpr behind
  | other are noZero =>
      obtain ⟨first, others, rfl, digit, each⟩ := are.exists_cons
      have after := afterDigits_append_of_digits each apart
      rw [List.cons_append, skipMagnitude]
      · rw [if_pos digit]
        apply (yields_map_leaves_iff (by intro _; rfl)).mpr
        rwa [after]
      · rintro rfl
        exact noZero rfl

/-- What is skipped as a number without a sign is one. -/
theorem exists_isMagnitude_of_skipMagnitude (skipped : Yields (skipMagnitude text) () rest) :
    ∃ magnitude, IsMagnitude magnitude ∧ text = magnitude ++ rest := by
  obtain ⟨shorter, skipped⟩ := skipped
  unfold skipMagnitude at skipped
  split at skipped
  · cases skipped
  · split at skipped
    · cases skipped
    · obtain ⟨fraction, exponent, isFraction, isExponent, split⟩ :=
        exists_isFraction_of_skipAfterWhole
          ((yields_map_leaves_iff (by intro _; rfl)).mp ⟨shorter, skipped⟩)
      refine ⟨_, .parts .zero isFraction isExponent, ?_⟩
      rw [List.append_assoc, List.append_assoc, ← split]
      rfl
  · rename_i c text noZero
    split at skipped
    · rename_i digit
      obtain ⟨digits, places, each⟩ := exists_digits text
      obtain ⟨fraction, exponent, isFraction, isExponent, split⟩ :=
        exists_isFraction_of_skipAfterWhole
          ((yields_map_leaves_iff (by intro _; rfl)).mp ⟨shorter, skipped⟩)
      have are : AreDigits (c :: digits) :=
        ⟨List.cons_ne_nil _ _, List.forall_mem_cons.mpr ⟨digit, each⟩⟩
      refine ⟨_, .parts (.other are ?_) isFraction isExponent, ?_⟩
      · intro zero
        exact noZero (Option.some.inj zero)
      · rw [List.append_assoc, List.append_assoc, ← split, List.cons_append, ← places]
    · cases skipped

/-- A number without a sign begins with a digit. -/
theorem IsMagnitude.exists_cons {magnitude : List Char} (is : IsMagnitude magnitude) :
    ∃ first digits, magnitude = first :: digits ∧ first.isDigit = true := by
  obtain ⟨isWhole, _, _⟩ := is
  cases isWhole with
  | zero => exact ⟨'0', _, rfl, rfl⟩
  | other are _ =>
      obtain ⟨first, others, rfl, digit, _⟩ := are.exists_cons
      exact ⟨first, _, rfl, digit⟩

/-- A number begins with a sign or a digit. -/
theorem IsNumber.exists_cons {number : List Char} (is : IsNumber number) :
    ∃ first digits, number = first :: digits ∧ (first == '-' || first.isDigit) = true := by
  cases is with
  | minus => exact ⟨'-', _, rfl, rfl⟩
  | plain magnitude =>
      obtain ⟨first, digits, split, digit⟩ := magnitude.exists_cons
      exact ⟨first, digits, split, by rw [digit, Bool.or_true]⟩

theorem beq_minus_of_isDigit {c : Char} (digit : c.isDigit = true) : (c == '-') = false := by
  rw [beq_eq_false_iff_ne]
  rintro rfl
  cases digit

/-- **A number is skipped to its end.** -/
theorem IsNumber.yields_skipNumber {first : Char} {digits : List Char}
    (is : IsNumber (first :: digits)) (ends : EndsNumber rest) :
    Yields (skipNumber first (digits ++ rest)) () rest := by
  generalize whole : first :: digits = number at is
  cases is with
  | minus magnitude =>
      obtain ⟨rfl, rfl⟩ := List.cons.inj whole
      exact (magnitude.yields_skipMagnitude ends).map_after '-'
  | plain magnitude =>
      subst whole
      obtain ⟨_, _, split, digit⟩ := magnitude.exists_cons
      obtain ⟨rfl, _⟩ := List.cons.inj split
      rw [skipNumber, beq_minus_of_isDigit digit, if_neg Bool.false_ne_true]
      exact magnitude.yields_skipMagnitude ends

/-- **What is skipped as a number is one.** -/
theorem exists_isNumber_of_skipNumber {first : Char}
    (skipped : Yields (skipNumber first text) () rest) :
    ∃ digits, IsNumber (first :: digits) ∧ text = digits ++ rest := by
  unfold skipNumber at skipped
  split at skipped
  · rename_i minus
    obtain ⟨magnitude, is, split⟩ :=
      exists_isMagnitude_of_skipMagnitude ((yields_map_after_iff _).mp skipped)
    refine ⟨magnitude, ?_, split⟩
    rw [beq_iff_eq.mp minus]
    exact .minus is
  · obtain ⟨magnitude, is, split⟩ := exists_isMagnitude_of_skipMagnitude skipped
    obtain ⟨c, digits, rfl, _⟩ := is.exists_cons
    obtain ⟨rfl, rfl⟩ := List.cons.inj split
    exact ⟨digits, .plain is, rfl⟩

end Skipping

section Written

/-- The digits of a number are a whole part: they have no zero in front. -/
theorem isWhole_digitsOf (n : Nat) : IsWhole (Decimal.digitsOf n) := by
  rcases Nat.eq_zero_or_pos n with rfl | positive
  · exact .zero
  · exact .other (areDigits_digitsOf n) (head_digitsOf_ne positive)

theorem IsWhole.isMagnitude {whole : List Char} (is : IsWhole whole) : IsMagnitude whole := by
  have magnitude := IsMagnitude.parts is .none .none
  rwa [List.append_nil, List.append_nil] at magnitude

/-- A whole part with places is a number. -/
theorem IsWhole.isMagnitude_append {whole fraction : List Char} (is : IsWhole whole)
    (isFraction : IsFraction fraction) : IsMagnitude (whole ++ fraction) := by
  have magnitude := IsMagnitude.parts is isFraction .none
  rwa [List.append_nil] at magnitude

/-- A row of digits with more digits behind it is a row of digits. -/
theorem AreDigits.append {first second : List Char} (are : AreDigits first)
    (others : ∀ c ∈ second, c.isDigit = true) : AreDigits (first ++ second) :=
  ⟨fun none => are.filled (List.append_eq_nil_iff.mp none).1, List.forall_mem_append.mpr
    ⟨are.each, others⟩⟩

theorem isDigit_of_mem_zeros {count : Nat} {c : Char} (member : c ∈ List.replicate count '0') :
    c.isDigit = true := by
  rw [List.eq_of_mem_replicate member]
  rfl

/-- What is left of a row of digits is one, unless nothing is left. -/
theorem AreDigits.drop {digits : List Char} (are : AreDigits digits) {count : Nat}
    (left : count < digits.length) : AreDigits (digits.drop count) :=
  ⟨fun none => Nat.not_le_of_lt left (List.drop_eq_nil_iff.mp none),
    fun c member => are.each c (List.mem_of_mem_drop member)⟩

theorem AreDigits.take {digits : List Char} (are : AreDigits digits) {count : Nat}
    (positive : 0 < count) : AreDigits (digits.take count) := by
  obtain ⟨first, others, rfl, digit, each⟩ := are.exists_cons
  refine ⟨?_, fun c member => are.each c (List.mem_of_mem_take member)⟩
  intro none
  rcases List.take_eq_nil_iff.mp none with zero | impossible
  · omega
  · cases impossible

variable {d : Decimal}

theorem isFraction_cons {digits : List Char} (are : AreDigits digits) :
    IsFraction (['.'] ++ digits) :=
  .places are

/-- A decimal with the point in place is a number, unless it is zero with more zeros behind. -/
theorem isMagnitude_fixedText (zero : d.digits = 0 → d.exponent ≤ 0) :
    IsMagnitude d.fixedText := by
  have are := areDigits_digitsOf d.digits
  have single : d.digits = 0 → (Decimal.digitsOf d.digits).length = 1 := by
    intro none
    rw [none, digitsOf_zero, List.length_singleton]
  unfold Decimal.fixedText
  dsimp only
  split
  · rename_i high
    have whole : IsWhole
        (Decimal.digitsOf d.digits ++ List.replicate d.exponent.toNat '0') := by
      rcases Nat.eq_zero_or_pos d.digits with none | positive
      · have level : d.exponent.toNat = 0 := by
          have low := zero none
          omega
        rw [level, List.replicate_zero, List.append_nil]
        exact isWhole_digitsOf _
      · refine .other (are.append fun _ => isDigit_of_mem_zeros) ?_
        obtain ⟨first, others, split, _⟩ := are.exists_cons
        have noZero := head_digitsOf_ne positive
        rwa [split] at noZero ⊢
    have places : AreDigits ['0'] := ⟨List.cons_ne_nil _ _, List.forall_mem_singleton.mpr rfl⟩
    exact whole.isMagnitude_append (isFraction_cons places)
  · rename_i low
    split
    · rename_i inside
      have positive : 0 < d.digits := by
        rw [Nat.pos_iff_ne_zero]
        intro none
        rw [single none] at inside
        omega
      have whole : IsWhole ((Decimal.digitsOf d.digits).take
          ((Decimal.digitsOf d.digits).length - (-d.exponent).toNat)) := by
        refine .other (are.take (by omega)) ?_
        rw [List.head?_take, if_neg (by omega)]
        exact head_digitsOf_ne positive
      rw [List.append_assoc]
      exact whole.isMagnitude_append (isFraction_cons (are.drop (by omega)))
    · have places : AreDigits (List.replicate
          ((-d.exponent).toNat - (Decimal.digitsOf d.digits).length) '0' ++
            Decimal.digitsOf d.digits) := by
        refine ⟨fun none => are.filled (List.append_eq_nil_iff.mp none).2, ?_⟩
        exact List.forall_mem_append.mpr ⟨fun _ => isDigit_of_mem_zeros, are.each⟩
      rw [List.append_assoc]
      exact IsWhole.zero.isMagnitude_append (isFraction_cons places)

theorem isWhole_singleton {c : Char} (digit : c.isDigit = true) : IsWhole [c] := by
  by_cases zero : c = '0'
  · rw [zero]
    exact .zero
  · refine .other ⟨List.cons_ne_nil _ _, List.forall_mem_singleton.mpr digit⟩ ?_
    intro same
    exact zero (Option.some.inj same)

/-- A decimal with an exponent is a number. -/
theorem isMagnitude_exponentText (d : Decimal) : IsMagnitude d.exponentText := by
  have are := areDigits_digitsOf d.digits
  have whole : IsWhole ((Decimal.digitsOf d.digits).take 1) := by
    obtain ⟨first, others, split, digit, _⟩ := are.exists_cons
    rw [split]
    exact isWhole_singleton digit
  have fraction : IsFraction (if (Decimal.digitsOf d.digits).length ≤ 1 then []
      else '.' :: (Decimal.digitsOf d.digits).drop 1) := by
    split
    · exact .none
    · rename_i longer
      exact .places (are.drop (Nat.lt_of_not_le longer))
  have power (sign : Char) (signed : IsSign [sign]) (n : Nat) :
      IsExponent (['e', sign] ++ Decimal.digitsOf n) :=
    .power (.inl rfl) signed (areDigits_digitsOf n)
  unfold Decimal.exponentText
  dsimp only
  rw [List.append_assoc, List.append_assoc]
  refine .parts whole fraction (power _ ?_ _)
  split
  · exact .minus
  · exact .plus

/-- A decimal is a number in either form, if zero has no positive exponent. -/
theorem isMagnitude_text (format : BinaryFormat) (zero : d.digits = 0 → d.exponent ≤ 0) :
    IsMagnitude (d.text format) := by
  unfold Decimal.text
  dsimp only
  split
  · exact isMagnitude_fixedText zero
  · exact isMagnitude_exponentText d

/-- A number that is not zero has more digits than zeros at their end. -/
theorem zeros_lt_length {n : Nat} (positive : 0 < n) :
    ((Decimal.digitsOf n).reverse.takeWhile (· == '0')).length < (Decimal.digitsOf n).length := by
  have shorter := (List.takeWhile_sublist (l := (Decimal.digitsOf n).reverse) (· == '0')).length_le
  rw [List.length_reverse] at shorter
  apply Nat.lt_of_le_of_ne shorter
  intro same
  have all : (Decimal.digitsOf n).reverse.takeWhile (· == '0') = (Decimal.digitsOf n).reverse := by
    apply (List.takeWhile_sublist _).eq_of_length
    rw [same, List.length_reverse]
  obtain ⟨first, others, split, _⟩ := (areDigits_digitsOf n).exists_cons
  have member : first ∈ (Decimal.digitsOf n).reverse := by
    rw [split]
    exact List.mem_reverse.mpr List.mem_cons_self
  have zero := List.all_eq_true.mp List.all_takeWhile first (all.symm ▸ member)
  apply head_digitsOf_ne positive
  rw [split, beq_iff_eq.mp zero]
  rfl

/-- Dropping zeros at the end makes no other number zero. -/
theorem digits_trimmed_ne_zero (d : Decimal) (positive : 0 < d.digits) : d.trimmed.digits ≠ 0 := by
  have fewer := zeros_lt_length positive
  have notZero : (d.digits == 0) = false := beq_eq_false_iff_ne.mpr (Nat.ne_of_gt positive)
  unfold Decimal.trimmed
  dsimp only
  rw [notZero, if_neg Bool.false_ne_true]
  generalize ((Decimal.digitsOf d.digits).reverse.takeWhile (· == '0')).length = zeros at fewer
  apply Nat.ne_of_gt
  apply Nat.div_pos _ (Nat.pow_pos (by decide))
  apply Nat.le_of_not_lt
  intro less
  cases zeros with
  | zero => exact Nat.not_lt_of_le positive less
  | succ zeros =>
      have longer := (Nat.length_toDigits_le_iff (by decide) (Nat.succ_pos zeros)).mpr less
      exact Nat.not_le_of_lt fewer longer

/-- Without its last zeros, zero has no positive exponent. -/
theorem exponent_trimmed (d : Decimal) (zero : d.trimmed.digits = 0) : d.trimmed.exponent ≤ 0 := by
  rcases Nat.eq_zero_or_pos d.digits with none | positive
  · unfold Decimal.trimmed
    rw [none]
    exact Int.le_refl 0
  · exact absurd zero (digits_trimmed_ne_zero d positive)

/-- The text of a binary number without its sign is a number. -/
theorem isMagnitude_binaryText (format : BinaryFormat) (x : Binary) :
    IsMagnitude (x.text format) := by
  apply isMagnitude_text
  unfold Decimal.shortest
  split
  · exact fun _ => Int.le_refl 0
  · exact exponent_trimmed _

/-- **Every number is written in the form of one.** -/
theorem isNumber_written (number : Number) : IsNumber number.written := by
  cases number with
  | natural value => exact .plain (isWhole_digitsOf value).isMagnitude
  | negative magnitude => exact .minus (isWhole_digitsOf magnitude).isMagnitude
  | real format minus magnitude =>
      have is := isMagnitude_binaryText format magnitude
      cases minus with
      | true => exact .minus is
      | false => exact .plain is

end Written

end Locution.Json
