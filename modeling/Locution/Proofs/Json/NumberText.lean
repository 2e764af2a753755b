import Locution.Proofs.Json.Reading

/-! # Written whole numbers are read back

The digits of a whole number begin with a zero only for zero itself (`digitsOf_cases`) and are
gathered to the number again (`gather_eq`). So a whole number of 64 bits with a sign is read back
from its text, when what follows does not go on the number (`yields_readInt64`).
-/

namespace Locution.Json

open Decimal

/-- Whether a text does not go on a whole number before it. -/
def EndsNumber (rest : List Char) : Prop :=
  ∀ c ∈ rest.head?, c.isDigit = false ∧ c ≠ '.' ∧ c ≠ 'e' ∧ c ≠ 'E'

theorem endsNumber_nil : EndsNumber [] := by
  intro c head
  cases head

/-- No blank goes on a number. -/
theorem ends_of_isLayout {c : Char} (blank : isLayout c = true) :
    c.isDigit = false ∧ c ≠ '.' ∧ c ≠ 'e' ∧ c ≠ 'E' := by
  simp only [isLayout, Bool.or_eq_true, beq_iff_eq] at blank
  rcases blank with ((rfl | rfl) | rfl) | rfl <;> decide

/-- The first character of a number is that of no other value. -/
theorem not_mem_of_number_sign {first : Char} (sign : (first == '-' || first.isDigit) = true) :
    first ∉ ['"', 'n', 't', 'f', '[', ']', '\x7b'] := by
  have each : ∀ c ∈ ['"', 'n', 't', 'f', '[', ']', '\x7b'], (c == '-' || c.isDigit) = false := by
    simp only [List.forall_mem_cons, List.not_mem_nil, false_implies, implies_true, and_true]
    decide
  intro member
  rw [each first member] at sign
  cases sign

/-- A whole number as a value. -/
def Value.ofInt : Int → Value
  | .ofNat n => .number (.natural n)
  | .negSucc n => .number (.negative (n + 1))

variable {rest digits : List Char}

theorem isDigit_of_mem_digitsOf {n : Nat} {c : Char} (member : c ∈ digitsOf n) :
    c.isDigit = true :=
  Nat.isDigit_of_mem_toDigits (by decide) (by decide) member

theorem digitsOf_zero : digitsOf 0 = ['0'] :=
  rfl

/-- Only the digits of zero begin with a zero. -/
theorem head_digitsOf_ne {n : Nat} (positive : 0 < n) : (digitsOf n).head? ≠ some '0' := by
  induction n using Nat.strongRecOn with
  | ind n ih =>
      rw [digitsOf, Nat.toDigits_eq_if (by decide)]
      split
      · rename_i single
        have digit : ∀ n < 10, 0 < n → [n.digitChar].head? ≠ some '0' := by decide
        exact digit n single positive
      · rename_i several
        have front := ih (n / 10) (by omega) (by omega)
        cases spelled : digitsOf (n / 10) with
        | nil => exact absurd spelled Nat.toDigits_ne_nil
        | cons c digits =>
            rw [spelled] at front
            rw [← digitsOf, spelled]
            exact front

/-- A number is zero, or has no zero in front and is the number of its digits. -/
theorem digitsOf_cases (n : Nat) :
    n = 0 ∨ ∃ first digits, digitsOf n = first :: digits ∧ first ≠ '0' ∧ first.isDigit = true ∧
      (∀ c ∈ digits, c.isDigit = true) ∧ Nat.ofDigitChars 10 digits (digitValue first) = n := by
  rcases Nat.eq_zero_or_pos n with zero | positive
  · exact .inl zero
  · right
    cases spelled : digitsOf n with
    | nil => exact absurd spelled Nat.toDigits_ne_nil
    | cons first digits =>
        have front := head_digitsOf_ne positive
        have areDigits : ∀ c ∈ first :: digits, c.isDigit = true :=
          fun c member => isDigit_of_mem_digitsOf (spelled ▸ member)
        have meant : Nat.ofDigitChars 10 (digitsOf n) 0 = n := Nat.ofDigitChars_ten_toDigits
        rw [spelled, Nat.ofDigitChars_cons, Nat.mul_zero, Nat.zero_add] at meant
        rw [spelled] at front
        exact ⟨first, digits, rfl, fun same => front (congrArg some same),
          areDigits first List.mem_cons_self,
          fun c member => areDigits c (List.mem_cons_of_mem _ member), meant⟩

/-- The digits at the beginning of a text end where a number may end. -/
theorem leadingDigits_append (areDigits : ∀ c ∈ digits, c.isDigit = true)
    (ends : EndsNumber rest) : leadingDigits (digits ++ rest) = digits := by
  rw [leadingDigits, List.takeWhile_append_of_pos areDigits]
  cases rest with
  | nil => exact List.append_nil _
  | cons c rest =>
      have stop : ¬ c.isDigit = true := Bool.eq_false_iff.mp (ends c rfl).1
      rw [List.takeWhile_cons_of_neg stop, List.append_nil]

/-- Behind the digits of a number stands what ends it. -/
theorem afterDigits_append (areDigits : ∀ c ∈ digits, c.isDigit = true)
    (ends : EndsNumber rest) : afterDigits (digits ++ rest) = rest := by
  rw [afterDigits, List.dropWhile_append_of_pos areDigits]
  cases rest with
  | nil => rfl
  | cons c rest => exact List.dropWhile_cons_of_neg (Bool.eq_false_iff.mp (ends c rfl).1)

/-- Digits are gathered to the number they stand for. -/
theorem gather_eq (value : Nat) (fits : Nat.ofDigitChars 10 digits value < Nat.pow 2 64) :
    gather value digits = (Nat.ofDigitChars 10 digits value, []) := by
  induction digits generalizing value with
  | nil => rfl
  | cons c digits ih =>
      have step : Nat.ofDigitChars 10 (c :: digits) value =
          Nat.ofDigitChars 10 digits (value * 10 + digitValue c) := by
        rw [Nat.ofDigitChars_cons, Nat.mul_comm, digitValue]
      have below : value * 10 + digitValue c ≤
          Nat.ofDigitChars 10 digits (value * 10 + digitValue c) := by
        rw [Nat.ofDigitChars_eq_ofDigitChars_zero]
        exact Nat.le_add_right_of_le (Nat.le_mul_of_pos_left _ (Nat.pow_pos (by decide)))
      rw [step] at fits ⊢
      rw [gather, if_pos (Nat.lt_of_le_of_lt below fits)]
      exact ih _ fits

/-- A number without places and without a power of ten is its whole part. -/
theorem readAfterWhole_eq {minus : Bool} {value : Nat} {number : Number} {text : List Char}
    (ends : EndsNumber rest) (whole : wholeNumber minus value rest = .ok number)
    (reached : rest = text) :
    ∃ within, readAfterWhole minus value [] text = .ok (number, ⟨rest, within⟩) := by
  subst reached
  refine ⟨Nat.le_refl _, ?_⟩
  have plain : (rest.head?.any fun c => c == 'e' || c == 'E') = false := by
    cases rest with
    | nil => rfl
    | cons c rest =>
        obtain ⟨_, _, small, great⟩ := ends c rfl
        simp only [List.head?_cons, Option.any_some, beq_eq_false_iff_ne.mpr small,
          beq_eq_false_iff_ne.mpr great, Bool.or_self]
  unfold readAfterWhole
  split
  · exact absurd rfl (ends '.' rfl).2.1
  · simp only [List.isEmpty_nil, plain, Bool.not_false, Bool.and_self, ↓reduceIte, whole]
    rfl

/-- The digits of a whole number below 2 ^ 64 are read as that number. -/
theorem yields_readMagnitude {minus : Bool} {value : Nat} {number : Number}
    (fits : value < Nat.pow 2 64) (ends : EndsNumber rest)
    (whole : wholeNumber minus value rest = .ok number) :
    Yields (readMagnitude minus (digitsOf value ++ rest)) number rest := by
  rcases digitsOf_cases value with rfl | ⟨first, digits, spelled, noZero, isDigit, areDigits, meant⟩
  · have alone : opensWithDigit rest = false := by
      cases rest with
      | nil => rfl
      | cons c rest => exact (ends c rfl).1
    obtain ⟨within, read⟩ := readAfterWhole_eq ends whole rfl
    rw [digitsOf_zero, List.singleton_append]
    simp only [readMagnitude, alone, Bool.false_eq_true, ↓reduceIte, read]
    exact ⟨_, rfl⟩
  · have gathered : gather (digitValue first) digits = (value, []) := by
      rw [gather_eq _ (meant.symm ▸ fits), meant]
    obtain ⟨within, read⟩ :=
      readAfterWhole_eq ends whole (afterDigits_append areDigits ends).symm
    rw [spelled, List.cons_append, readMagnitude]
    · simp only [isDigit, ↓reduceIte, leadingDigits_append areDigits ends, gathered, read]
      exact ⟨_, rfl⟩
    · exact noZero

/-- A number without a sign is read, if it has no more than sixty-four bits. -/
theorem yields_readNumber_natural {value : Nat} {first : Char} {tail : List Char}
    (fits : value < Nat.pow 2 64) (ends : EndsNumber rest)
    (spelled : digitsOf value ++ rest = first :: tail) :
    first.isDigit = true ∧ Yields (readNumber first tail) (.natural value) rest := by
  have read := yields_readMagnitude fits ends (Eq.refl (wholeNumber false value rest))
  rw [spelled] at read
  have isDigit : first.isDigit = true := by
    cases digits : digitsOf value with
    | nil => exact absurd digits Nat.toDigits_ne_nil
    | cons c others =>
        rw [digits, List.cons_append] at spelled
        rw [← (List.cons.inj spelled).1]
        exact isDigit_of_mem_digitsOf (digits ▸ List.mem_cons_self)
  have noSign : ¬ (first == '-') = true := by
    rw [beq_iff_eq]
    rintro rfl
    exact absurd isDigit (by decide)
  rw [readNumber, if_neg noSign]
  exact ⟨isDigit, read⟩

/-- A number with a sign is read, if it has no more than sixty-four bits with the sign. -/
theorem yields_readNumber_negative {magnitude : Nat} (positive : 0 < magnitude)
    (fits : magnitude ≤ Nat.pow 2 63) (ends : EndsNumber rest) :
    Yields (readNumber '-' (digitsOf magnitude ++ rest)) (.negative magnitude) rest := by
  have whole : wholeNumber true magnitude rest = .ok (.negative magnitude) := by
    simp only [wholeNumber, Bool.not_true, Bool.false_eq_true, ↓reduceIte, positive, fits, and_self]
  have read := yields_readMagnitude (Nat.lt_of_le_of_lt fits (by decide)) ends whole
  rw [readNumber, if_pos (beq_self_eq_true _)]
  exact read.map_after '-'

/-- Whether a whole number has 64 bits with a sign. -/
def IsInt64 (value : Int) : Prop :=
  -(Nat.pow 2 63 : Nat) ≤ value ∧ value < (Nat.pow 2 63 : Nat)

instance : DecidablePred IsInt64 := fun value =>
  inferInstanceAs (Decidable (-(Nat.pow 2 63 : Nat) ≤ value ∧ value < (Nat.pow 2 63 : Nat)))

/-- A written whole number of 64 bits with a sign is read back. -/
theorem yields_readInt64 {layout : Layout} {level : Nat} {text : List Char} {value : Int}
    (within : IsInt64 value) (ends : EndsNumber rest)
    (begins : skipBlank text = (Value.ofInt value).written layout level ++ rest) :
    Yields (readInt64 text) value rest := by
  obtain ⟨least, greatest⟩ := within
  cases value with
  | ofNat n =>
      have small : n < Nat.pow 2 63 := by
        rw [Int.ofNat_eq_natCast] at greatest
        omega
      have fits : n < Nat.pow 2 64 := Nat.lt_trans small (by decide)
      cases spelled : digitsOf n ++ rest with
      | nil => exact absurd (List.append_eq_nil_iff.mp spelled).1 Nat.toDigits_ne_nil
      | cons first tail =>
          obtain ⟨isDigit, shorter, read⟩ := yields_readNumber_natural fits ends spelled
          refine yields_readFirst (begins.trans spelled) ?_
          simp only [isDigit, Bool.or_true, ↓reduceIte, read, Number.toInt64, small]
          exact ⟨_, rfl⟩
  | negSucc n =>
      have fits : n + 1 ≤ Nat.pow 2 63 := by omega
      obtain ⟨shorter, read⟩ := yields_readNumber_negative (Nat.succ_pos n) fits ends
      refine yields_readFirst begins ?_
      simp only [beq_self_eq_true, Bool.true_or, ↓reduceIte, List.append_eq, read, Number.toInt64]
      exact ⟨_, rfl⟩

/-- A written number is not taken for null. -/
theorem head?_ofInt_ne {layout : Layout} {level : Nat} (value : Int) (rest : List Char) :
    ((Value.ofInt value).written layout level ++ rest).head? ≠ some 'n' := by
  cases value with
  | negSucc n => exact fun same => absurd (Option.some.inj same) (by decide)
  | ofNat n =>
      cases digits : digitsOf n with
      | nil => exact absurd digits Nat.toDigits_ne_nil
      | cons c others =>
          have isDigit : c.isDigit = true :=
            isDigit_of_mem_digitsOf (digits ▸ List.mem_cons_self)
          have spelled : (Value.ofInt (Int.ofNat n)).written layout level = c :: others := digits
          rw [spelled, List.cons_append, List.head?_cons]
          rintro ⟨⟩
          exact absurd isDigit (by decide)

end Locution.Json
