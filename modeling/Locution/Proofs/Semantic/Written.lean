import Locution.Proofs.Json.Record
import Locution.Semantic.Reply

/-! # Written replies are read back

A reply is written as an object of its four parts, null for a missing one (`Reply.toValue`). Its
claimed places are whole numbers of 64 bits with a sign (`Reply.InRange`), and then the written
reply is read as itself, whatever stands behind it (`Reply.yields_written`). Its text is written
last, and a backtick can stand only there (`Reply.exists_written_toValue`).
-/

namespace Locution.Reply

open Json

/-- A reply as a value. -/
def toValue (reply : Reply) : Value :=
  .object [("matched", .bool reply.matched), ("start_index", .ofOption .ofInt reply.start),
    ("end_index", .ofOption .ofInt reply.stop), ("matched_text", .ofOption .string reply.text)]

/-- Whether the claimed places of a reply are whole numbers of 64 bits with a sign. -/
structure InRange (reply : Reply) : Prop where
  start : ∀ n ∈ reply.start, IsInt64 n
  stop : ∀ n ∈ reply.stop, IsInt64 n

instance {reply : Reply} : Decidable reply.InRange :=
  decidable_of_iff ((∀ n ∈ reply.start, IsInt64 n) ∧ ∀ n ∈ reply.stop, IsInt64 n)
    ⟨fun ⟨start, stop⟩ => ⟨start, stop⟩, fun range => ⟨range.start, range.stop⟩⟩

variable {layout : Layout} {level : Nat} {text rest : List Char}

/-- A place that may be null is read back. -/
theorem yields_place {place? : Option Int} (range : ∀ n ∈ place?, IsInt64 n)
    (ends : EndsNumber rest)
    (begins : skipBlank text = (Value.ofOption .ofInt place?).written layout level ++ rest) :
    Yields (readOptional readInt64 text) place? rest :=
  yields_readOptional begins (fun n _ => head?_ofInt_ne n rest)
    fun n claimed => yields_readInt64 (range n claimed) ends

/-- The parts of a written reply fill in its draft. -/
theorem fills_shape {reply : Reply} (range : reply.InRange) :
    Fills shape.fields layout level shape.blank
      [("matched", .bool reply.matched), ("start_index", .ofOption .ofInt reply.start),
        ("end_index", .ofOption .ofInt reply.stop), ("matched_text", .ofOption .string reply.text)]
      ⟨some reply.matched, some reply.start, some reply.stop, some reply.text⟩ := by
  refine .cons rfl rfl (fun _ _ _ begins =>
    (yields_readBool reply.matched begins).map_value _) ?_
  refine .cons rfl rfl (fun _ _ ends begins =>
    (yields_place range.start ends begins).map_value _) ?_
  refine .cons rfl rfl (fun _ _ ends begins =>
    (yields_place range.stop ends begins).map_value _) ?_
  refine .cons rfl rfl (fun _ _ _ begins => (yields_readOptional_readText begins).map_value _) ?_
  exact .nil

/-- A written reply is read as itself. -/
theorem yields_written {reply : Reply} (range : reply.InRange) (blank : layout.IsBlank)
    (begins : skipBlank text = reply.toValue.written layout level ++ rest) :
    Yields (readRecord shape text) reply rest := by
  have read := yields_readRecord blank (fills_shape range) rfl begins
  exact read

/-- The last part between brackets, and what stands before it. -/
theorem exists_enclosed_append (opening closing : Char) (parts : List (List Char))
    (part : List Char) :
    ∃ front, enclosed layout level opening closing (parts ++ [part]) =
      opening :: (front ++ (part ++ (layout.before level ++ [closing]))) ∧
        ∀ c ∈ front, c = ',' ∨ c ∈ layout.before (level + 1) ∨ ∃ other ∈ parts, c ∈ other := by
  cases parts with
  | nil =>
      refine ⟨layout.before (level + 1), ?_, fun c member => .inr (.inl member)⟩
      simp only [enclosed, List.nil_append, List.flatMap_nil, List.append_assoc, List.cons_append]
  | cons first others =>
      refine ⟨layout.before (level + 1) ++ (first ++ ((others.flatMap fun part =>
        ',' :: (layout.before (level + 1) ++ part)) ++ ',' :: layout.before (level + 1))), ?_, ?_⟩
      · simp only [enclosed, List.cons_append, List.flatMap_append, List.flatMap_cons,
          List.flatMap_nil, List.nil_append, List.append_nil, List.append_assoc]
      · intro c member
        simp only [List.mem_append, List.mem_flatMap, List.mem_cons] at member
        rcases member with blank | within | ⟨other, among, rfl | blank | within⟩ | rfl | blank
        · exact .inr (.inl blank)
        · exact .inr (.inr ⟨first, List.mem_cons_self, within⟩)
        · exact .inl rfl
        · exact .inr (.inl blank)
        · exact .inr (.inr ⟨other, List.mem_cons_of_mem _ among, within⟩)
        · exact .inl rfl
        · exact .inr (.inl blank)

theorem tick_not_mem_blanks {blanks : List Char} (are : AreBlanks blanks) : '`' ∉ blanks :=
  fun member => absurd (are _ member) (by decide)

theorem tick_not_mem_flag (flag : Bool) : '`' ∉ (Value.bool flag).written layout level := by
  cases flag with
  | false => rw [Value.written]; decide
  | true => rw [Value.written]; decide

theorem tick_not_mem_place (place? : Option Int) :
    '`' ∉ (Value.ofOption .ofInt place?).written layout level := by
  have digits (n : Nat) : '`' ∉ Decimal.digitsOf n := fun member =>
    absurd (isDigit_of_mem_digitsOf member) (by decide)
  cases place? with
  | none => rw [Value.ofOption, Value.written]; decide
  | some n =>
      cases n with
      | ofNat n => exact digits n
      | negSucc n => exact mt List.mem_cons.mp (not_or.mpr ⟨by decide, digits _⟩)

/-- A written reply is what stands before its text, the text, and its end; no backtick stands before
the text. -/
theorem exists_written_toValue (blank : layout.IsBlank) (reply : Reply) :
    ∃ front, '`' ∉ front ∧ reply.toValue.written layout level =
      '\x7b' :: (front ++ ((Value.ofOption .string reply.text).written layout (level + 1) ++
        (layout.before level ++ ['\x7d']))) := by
  obtain ⟨blanks, colon, are⟩ := blank.colon
  have quietColon : '`' ∉ layout.colon := by
    rw [colon]
    exact mt List.mem_cons.mp (not_or.mpr ⟨by decide, tick_not_mem_blanks are⟩)
  have member {key : String} {value : List Char} (quietKey : '`' ∉ writtenString key)
      (quiet : '`' ∉ value) : '`' ∉ writtenString key ++ layout.colon ++ value := by
    rw [List.mem_append, List.mem_append]
    exact not_or.mpr ⟨not_or.mpr ⟨quietKey, quietColon⟩, quiet⟩
  obtain ⟨front, spelled, parts⟩ := exists_enclosed_append '\x7b' '\x7d'
    (Value.writtenMembers layout (level + 1) [("matched", .bool reply.matched),
      ("start_index", .ofOption .ofInt reply.start), ("end_index", .ofOption .ofInt reply.stop)])
    (writtenString "matched_text" ++ layout.colon ++
      (Value.ofOption .string reply.text).written layout (level + 1))
  refine ⟨front ++ (writtenString "matched_text" ++ layout.colon), ?_, ?_⟩
  · rw [List.mem_append, List.mem_append]
    refine not_or.mpr ⟨fun within => ?_, not_or.mpr ⟨by decide, quietColon⟩⟩
    rcases parts _ within with comma | blanks | ⟨other, among, inside⟩
    · exact absurd comma (by decide)
    · exact tick_not_mem_blanks (blank.before _) blanks
    · simp only [Value.writtenMembers, List.mem_cons, List.not_mem_nil, or_false] at among
      rcases among with rfl | rfl | rfl
      · exact member (by decide) (tick_not_mem_flag _) inside
      · exact member (by decide) (tick_not_mem_place _) inside
      · exact member (by decide) (tick_not_mem_place _) inside
  · rw [toValue, Value.written]
    refine Eq.trans spelled ?_
    simp only [List.append_assoc]

end Locution.Reply
