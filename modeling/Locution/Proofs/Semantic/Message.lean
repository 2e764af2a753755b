import Locution.Proofs.Semantic.Extraction
import Locution.Proofs.Semantic.Quotation
import Locution.Proofs.Semantic.Written

/-! # Replies in messages

A reply is read from the part of a message in which its object is looked for. Behind the first fence
that part is the whole object, whatever follows the block (`Reply.ofMessage_fenced`). Where there is
no fence it goes up to the last closing brace of the message, so words around an object do no harm
just when no closing brace follows it (`Reply.ofMessage_amid_iff`). A bare object is read back
unless its text holds a fenced object itself (`Reply.ofMessage_written_iff`): then that one is
taken, no part of a reply stands in it, and what is read says at most that there is no match.
-/

namespace Locution.Reply

open Json Text

section Parts

variable {reply : Reply} {layout : Layout} {message part : List Char}

/-- A message gives what its part gives, with a message about a fault in that part. -/
theorem ofMessage_of_objectPart? (found : objectPart? message = some part) :
    ofMessage (String.ofList message) =
      (ofJson part).mapError fun fault => .unreadable (fault.message part) := by
  simp only [ofMessage, String.toList_ofList, found]
  cases ofJson part <;> rfl

/-- The written form of a reply is read as the reply. -/
theorem ofJson_written (range : reply.InRange) (blank : layout.IsBlank) :
    ofJson (reply.toValue.written layout 0) = .ok reply := by
  have begins :
      skipBlank (reply.toValue.written layout 0) = reply.toValue.written layout 0 ++ [] := by
    rw [List.append_nil]
    have found := skipBlank_written layout 0 reply.toValue []
    rwa [List.append_nil] at found
  exact readWhole_of_yields (yields_written range blank begins) rfl

end Parts

section Fenced

/-- The object in the first fenced block is read as it is read alone, whatever follows the block. -/
theorem ofMessage_fenced {before tag lead object trail : List Char} (quiet : '`' ∉ before)
    (tagged : tag = [] ∨ tag = "json".toList) (leading : ∀ c ∈ lead, isSpace c = true)
    (opens : object.head? = some '\x7b') (closes : object.getLast? = some '\x7d')
    (whole : ¬ fence <:+: object) (trailing : ∀ c ∈ trail, isSpace c = true) (after : List Char) :
    ofMessage (String.ofList
        (before ++ fence ++ tag ++ lead ++ object ++ trail ++ fence ++ after)) =
      (ofJson object).mapError fun fault => .unreadable (fault.message object) := by
  obtain ⟨body, rfl⟩ : ∃ body, object = '\x7b' :: (body ++ ['\x7d']) := by
    obtain ⟨further, rfl⟩ := List.head?_eq_some_iff.mp opens
    obtain ⟨body, spelled⟩ := List.getLast?_eq_some_iff.mp closes
    cases body with
    | nil => cases spelled
    | cons c body => exact ⟨body, congrArg ('\x7b' :: ·) (List.cons.inj spelled).2⟩
  apply ofMessage_of_objectPart?
  have found := objectPart?_of_fenced quiet tagged leading trailing whole after
  simpa only [List.append_assoc, List.cons_append, List.nil_append] using found

/-- A second fenced block does not count. -/
theorem ofMessage_fenced_twice :
    let reply : Reply := ⟨true, some 3, some 11, some "on `board`"⟩
    let object := reply.toValue.written .compact 0
    '`' ∉ "Sure:\n".toList ∧ (∀ c ∈ "\n".toList, isSpace c = true) ∧
      object.head? = some '\x7b' ∧ object.getLast? = some '\x7d' ∧ ¬ fence <:+: object ∧
      ofMessage (String.ofList ("Sure:\n".toList ++ fence ++ "json".toList ++ "\n".toList ++
        object ++ "\n".toList ++ fence ++ "\n\n```\x7b\"matched\":false\x7d```\x7d".toList)) =
          .ok reply := by
  intro reply object
  have quiet : '`' ∉ "Sure:\n".toList := by decide
  have blanks : ∀ c ∈ "\n".toList, isSpace c = true := List.all_eq_true.mp (by decide)
  have opens : object.head? = some '\x7b' := by decide +kernel
  have closes : object.getLast? = some '\x7d' := by decide +kernel
  have whole : ¬ fence <:+: object := by decide +kernel
  have alone : ofJson object = .ok reply := ofJson_written (by decide) Layout.isBlank_compact
  have read := ofMessage_fenced quiet (.inr rfl) blanks opens closes whole blanks
    "\n\n```\x7b\"matched\":false\x7d```\x7d".toList
  rw [alone] at read
  exact ⟨quiet, blanks, opens, closes, whole, read⟩

end Fenced

section Amid

variable {reply : Reply} {layout : Layout} {before after inner rest : List Char}

/-- A written reply stands in braces. -/
theorem exists_body_toValue (blank : layout.IsBlank) (reply : Reply) :
    ∃ body, reply.toValue.written layout 0 = '\x7b' :: (body ++ ['\x7d']) := by
  obtain ⟨front, _, spelled⟩ : ∃ front, '`' ∉ front ∧ reply.toValue.written layout 0 = _ :=
    exists_written_toValue blank reply
  refine ⟨front ++ ((Value.ofOption .string reply.text).written layout 1 ++ layout.before 0), ?_⟩
  simpa only [List.append_assoc] using spelled

/-- Where no backtick stands, no object is fenced. -/
theorem unfenced_amid (quiet : '`' ∉ reply.toValue.written layout 0) (quietBefore : '`' ∉ before)
    (quietAfter : '`' ∉ after) :
    fencedObject? (trim (before ++ reply.toValue.written layout 0 ++ after)) = Option.none := by
  refine fencedObject?_eq_none fun member => ?_
  have inside := mem_of_mem_trim member
  rw [List.mem_append, List.mem_append] at inside
  exact inside.elim (Or.rec quietBefore quiet) quietAfter

/-- An object between words is read when no closing brace follows it. -/
theorem ofMessage_amid (range : reply.InRange) (blank : layout.IsBlank)
    (quiet : '`' ∉ reply.toValue.written layout 0) (quietBefore : '`' ∉ before)
    (opening : '\x7b' ∉ before) (quietAfter : '`' ∉ after) (closing : '\x7d' ∉ after) :
    ofMessage (String.ofList (before ++ reply.toValue.written layout 0 ++ after)) = .ok reply := by
  have unfenced := unfenced_amid quiet quietBefore quietAfter
  have read := ofJson_written range blank
  obtain ⟨body, spelled⟩ := exists_body_toValue blank reply
  rw [spelled] at unfenced read ⊢
  simp only [List.append_assoc, List.cons_append, List.nil_append] at unfenced ⊢
  rw [ofMessage_of_objectPart? (objectPart?_around unfenced opening closing), read]
  rfl

/-- With a closing brace further on, what follows the object is taken for a part of it. -/
theorem ofMessage_amid_brace (range : reply.InRange) (blank : layout.IsBlank)
    (quiet : '`' ∉ reply.toValue.written layout 0) (quietBefore : '`' ∉ before)
    (opening : '\x7b' ∉ before) (quietAfter : '`' ∉ inner ++ '\x7d' :: rest)
    (closing : '\x7d' ∉ rest) :
    ofMessage (String.ofList
        (before ++ reply.toValue.written layout 0 ++ (inner ++ '\x7d' :: rest))) =
      .error (.unreadable ((faultAt .trailingText (skipBlank (inner ++ ['\x7d']))).message
        (reply.toValue.written layout 0 ++ inner ++ ['\x7d']))) := by
  have unfenced := unfenced_amid quiet quietBefore quietAfter
  have begins : skipBlank (reply.toValue.written layout 0 ++ inner ++ ['\x7d']) =
      reply.toValue.written layout 0 ++ (inner ++ ['\x7d']) := by
    rw [List.append_assoc, skipBlank_written]
  have more : skipBlank (inner ++ ['\x7d']) ≠ [] := by
    rw [skipBlank, List.dropWhile_append]
    split
    · exact List.cons_ne_nil _ _
    · exact List.append_ne_nil_of_right_ne_nil _ (List.cons_ne_nil _ _)
  have read : ofJson (reply.toValue.written layout 0 ++ inner ++ ['\x7d']) =
      .error (faultAt .trailingText (skipBlank (inner ++ ['\x7d']))) :=
    readWhole_of_trailing (yields_written range blank begins) more
  obtain ⟨body, spelled⟩ := exists_body_toValue blank reply
  rw [spelled] at unfenced read ⊢
  have around : before ++ '\x7b' :: (body ++ ['\x7d']) ++ (inner ++ '\x7d' :: rest) =
      before ++ '\x7b' :: ((body ++ '\x7d' :: inner) ++ '\x7d' :: rest) := by
    simp only [List.append_assoc, List.cons_append, List.nil_append]
  have part : '\x7b' :: (body ++ ['\x7d']) ++ inner ++ ['\x7d'] =
      '\x7b' :: ((body ++ '\x7d' :: inner) ++ ['\x7d']) := by
    simp only [List.append_assoc, List.cons_append, List.nil_append]
  rw [around] at unfenced ⊢
  rw [part] at read ⊢
  rw [ofMessage_of_objectPart? (objectPart?_around unfenced opening closing), read]
  rfl

/-- An object between words is read just when no closing brace follows it. Otherwise the reply is
taken to be unreadable, as everything up to the last such brace is read with the object. -/
theorem ofMessage_amid_iff (range : reply.InRange) (blank : layout.IsBlank)
    (quiet : '`' ∉ reply.toValue.written layout 0) (quietBefore : '`' ∉ before)
    (opening : '\x7b' ∉ before) (quietAfter : '`' ∉ after) :
    (ofMessage (String.ofList (before ++ reply.toValue.written layout 0 ++ after)) = .ok reply ↔
      '\x7d' ∉ after) ∧
    ∀ inner rest, after = inner ++ '\x7d' :: rest → '\x7d' ∉ rest →
      ofMessage (String.ofList (before ++ reply.toValue.written layout 0 ++ after)) =
        .error (.unreadable ((faultAt .trailingText (skipBlank (inner ++ ['\x7d']))).message
          (reply.toValue.written layout 0 ++ inner ++ ['\x7d']))) := by
  refine ⟨⟨fun read closed => ?_, ?_⟩, ?_⟩
  · obtain ⟨inner, rest, rfl, closing⟩ := exists_last_of_mem closed
    rw [ofMessage_amid_brace range blank quiet quietBefore opening quietAfter closing] at read
    cases read
  · exact ofMessage_amid range blank quiet quietBefore opening quietAfter
  · rintro inner rest rfl closing
    exact ofMessage_amid_brace range blank quiet quietBefore opening quietAfter closing

/-- An opening brace behind an object does no harm. -/
theorem ofMessage_amid_opening :
    let reply : Reply := ⟨true, some 3, some 11, some "on board"⟩
    let written := reply.toValue.written .compact 0
    reply.InRange ∧ '`' ∉ written ∧
      ofMessage (String.ofList ("Here: ".toList ++ written ++ " with \x7b".toList)) =
        .ok reply := by
  intro reply written
  have range : reply.InRange := by decide
  have quiet : '`' ∉ written := by decide +kernel
  refine ⟨range, quiet, ?_⟩
  exact (ofMessage_amid_iff range Layout.isBlank_compact quiet (by decide) (by decide)
    (by decide)).1.mpr (by decide)

/-- The brace behind a slot is taken for the end of the object. -/
theorem ofMessage_amid_slot :
    let reply : Reply := ⟨true, some 3, some 11, some "on board"⟩
    let written := reply.toValue.written .compact 0
    let before := "Here: ".toList
    let after := " (the slot \x7bsomeone\x7d is filled)".toList
    reply.InRange ∧ '`' ∉ written ∧ '\x7b' ∉ before ∧ '`' ∉ before ∧ '`' ∉ after ∧
      ofMessage (String.ofList (before ++ written ++ after)) =
        .error (.unreadable "trailing characters at line 1 column 75") := by
  intro reply written before after
  have range : reply.InRange := by decide
  have quiet : '`' ∉ written := by decide +kernel
  have quietAfter : '`' ∉ after := by decide +kernel
  have split : after = " (the slot \x7bsomeone".toList ++ '\x7d' :: " is filled)".toList := by
    decide +kernel
  have message : (faultAt .trailingText
      (skipBlank (" (the slot \x7bsomeone".toList ++ ['\x7d']))).message
        (written ++ " (the slot \x7bsomeone".toList ++ ['\x7d']) =
          "trailing characters at line 1 column 75" := by
    decide +kernel
  refine ⟨range, quiet, by decide, by decide, quietAfter, ?_⟩
  rw [split] at quietAfter ⊢
  rw [ofMessage_amid_brace range Layout.isBlank_compact quiet (by decide) (by decide) quietAfter
    (by decide), message]

end Amid

section Bare

variable {reply : Reply} {layout : Layout}

/-- A written reply has no blanks around it. -/
theorem trim_written (blank : layout.IsBlank) (reply : Reply) :
    trim (reply.toValue.written layout 0) = reply.toValue.written layout 0 := by
  obtain ⟨body, spelled⟩ := exists_body_toValue blank reply
  have nothing : ∀ c ∈ ([] : List Char), isSpace c = true := fun _ member =>
    absurd member List.not_mem_nil
  rw [spelled]
  exact trim_of_blanks nothing nothing body

/-- A written text stands between a beginning and an end without backticks, and no letter of the
language tag is in the end. -/
theorem exists_written_of_text (blank : layout.IsBlank) {text : String}
    (claimed : reply.text = some text) :
    ∃ front after, '`' ∉ front ∧ '`' ∉ after ∧ (∀ m ∈ "json".toList, m ∉ after) ∧
      reply.toValue.written layout 0 = front ++ (text.toList.flatMap writtenChar ++ after) := by
  obtain ⟨front, quiet, spelled⟩ : ∃ front, '`' ∉ front ∧ reply.toValue.written layout 0 = _ :=
    exists_written_toValue blank reply
  have ended {c : Char} (solid : isLayout c = false) (other : c ∉ ['"', '\x7d']) :
      c ∉ '"' :: (layout.before 0 ++ ['\x7d']) := by
    intro member
    rw [List.mem_cons, List.mem_append] at member
    rcases member with rfl | blanks | closing
    · exact other List.mem_cons_self
    · rw [blank.before 0 c blanks] at solid
      cases solid
    · exact other (List.mem_cons_of_mem _ closing)
  refine ⟨'\x7b' :: (front ++ ['"']), '"' :: (layout.before 0 ++ ['\x7d']), ?_,
    ended (by decide) (by decide), fun m member => ?_, ?_⟩
  · simp only [List.mem_cons, List.mem_append, List.not_mem_nil, or_false, not_or]
    exact ⟨by decide, quiet, by decide⟩
  · have letters :
        ("json".toList.all fun m => !isLayout m && !(['"', '\x7d'].contains m)) = true := by
      decide
    have letter := List.all_eq_true.mp letters m member
    rw [Bool.and_eq_true, Bool.not_eq_true', Bool.not_eq_true', List.contains_eq_mem,
      decide_eq_false_iff_not] at letter
    exact ended letter.1 letter.2
  · rw [claimed] at spelled
    simpa only [Value.ofOption, Value.written, writtenString, List.append_assoc, List.cons_append,
      List.nil_append] using spelled

/-- A written reply without a text has no backtick. -/
theorem tick_not_mem_written (blank : layout.IsBlank) (silent : reply.text = Option.none) :
    '`' ∉ reply.toValue.written layout 0 := by
  obtain ⟨front, quiet, spelled⟩ : ∃ front, '`' ∉ front ∧ reply.toValue.written layout 0 = _ :=
    exists_written_toValue blank reply
  rw [spelled, silent, Value.ofOption, Value.written]
  simp only [List.mem_cons, List.mem_append, List.not_mem_nil, or_false, not_or]
  exact ⟨by decide, quiet, by decide, tick_not_mem_blanks (blank.before 0), by decide⟩

/-- A message that is a written reply without a fence is read as the reply. -/
theorem ofMessage_of_unfenced (range : reply.InRange) (blank : layout.IsBlank)
    (unfenced : fencedObject? (reply.toValue.written layout 0) = Option.none) :
    ofMessage (String.ofList (reply.toValue.written layout 0)) = .ok reply := by
  have trimmed := trim_written blank reply
  have read := ofJson_written range blank
  obtain ⟨body, spelled⟩ := exists_body_toValue blank reply
  have around : reply.toValue.written layout 0 = [] ++ '\x7b' :: (body ++ '\x7d' :: []) := spelled
  have found : objectPart? (reply.toValue.written layout 0) =
      some (reply.toValue.written layout 0) := by
    rw [← trimmed, around] at unfenced
    rw [around]
    exact objectPart?_around unfenced List.not_mem_nil List.not_mem_nil
  rw [ofMessage_of_objectPart? found, read]
  rfl

/-- What is read from a part of the text behind a brace says at most that there is no match. -/
theorem eq_none_of_ofMessage (blank : layout.IsBlank) {text : String} {other : Reply}
    (claimed : reply.text = some text) (holds : HoldsFencedObject text.toList)
    (read : ofMessage (String.ofList (reply.toValue.written layout 0)) = .ok other) :
    other = Reply.none := by
  obtain ⟨front, after, quietFront, quietAfter, plainAfter, spelled⟩ :=
    exists_written_of_text blank claimed
  obtain ⟨rest, taken⟩ := exists_fencedObject?_of_holds quietFront quietAfter plainAfter holds
  have found : objectPart? (reply.toValue.written layout 0) =
      some ('\x7b' :: trimEnd (rest.flatMap writtenChar)) := by
    rw [objectPart?, trim_written blank, spelled, taken, Option.some_or]
  rw [ofMessage_of_objectPart? found] at read
  -- Every quotation mark of the text is escaped, so no key stands behind the brace.
  have unquoted := head?_skipBlank_of_prefix (prefix_trimEnd (rest.flatMap writtenChar))
  cases alone : ofJson ('\x7b' :: trimEnd (rest.flatMap writtenChar)) with
  | error fault =>
      rw [alone] at read
      cases read
  | ok reply =>
      rw [alone] at read
      obtain ⟨_, ⟨_, took⟩, _⟩ := exists_yields_of_readWhole alone
      rw [← Except.ok.inj read]
      exact value_of_readRecord_of_no_key unquoted took

/-- A bare reply is read back just when its text holds no fenced object. Otherwise at most the reply
that there is no match is read. -/
theorem ofMessage_written_iff (range : reply.InRange) (blank : layout.IsBlank) :
    (ofMessage (String.ofList (reply.toValue.written layout 0)) = .ok reply ↔
      ∀ text ∈ reply.text, ¬ HoldsFencedObject text.toList) ∧
    ∀ other, ofMessage (String.ofList (reply.toValue.written layout 0)) = .ok other →
      other = reply ∨ other = Reply.none := by
  cases claimed : reply.text with
  | none =>
      have read := ofMessage_of_unfenced range blank
        (fencedObject?_eq_none (tick_not_mem_written blank claimed))
      refine ⟨iff_of_true read fun _ member => ?_, fun other again => .inl ?_⟩
      · cases member
      · exact Except.ok.inj (again.symm.trans read)
  | some text =>
      by_cases holds : HoldsFencedObject text.toList
      · have masked (other : Reply) := @eq_none_of_ofMessage _ _ blank _ other claimed holds
        refine ⟨iff_of_false (fun read => ?_) fun free => free text rfl holds, fun other read =>
          .inr (masked other read)⟩
        have same := congrArg Reply.text (masked reply read)
        rw [claimed] at same
        cases same
      · obtain ⟨front, after, quietFront, quietAfter, plainAfter, spelled⟩ :=
          exists_written_of_text blank claimed
        have unfenced : fencedObject? (reply.toValue.written layout 0) = Option.none := by
          rw [spelled]
          exact fencedObject?_eq_none_of_not_holds quietFront quietAfter plainAfter holds
        have read := ofMessage_of_unfenced range blank unfenced
        refine ⟨iff_of_true read fun other member => ?_, fun other again => .inl ?_⟩
        · rwa [← Option.some.inj member]
        · exact Except.ok.inj (again.symm.trans read)

/-- Backticks, braces, quotation marks, line breaks and the outermost whole numbers do no harm. -/
theorem ofMessage_written_outermost :
    let reply : Reply := ⟨true, some (-9223372036854775808), some 9223372036854775807,
      some "`\x7ba\x7d` \"b\"\n```é``` \x7b"⟩
    reply.InRange ∧ Layout.compact.IsBlank ∧
      ofMessage (String.ofList (reply.toValue.written .compact 0)) = .ok reply := by
  intro reply
  have range : reply.InRange := by decide
  have free : ∀ text ∈ reply.text, ¬ HoldsFencedObject text.toList := by decide +kernel
  exact ⟨range, Layout.isBlank_compact,
    (ofMessage_written_iff range Layout.isBlank_compact).1.mpr free⟩

/-- A quoted code block is taken for the reply. -/
theorem ofMessage_written_code_block :
    let reply : Reply := ⟨true, some 0, some 8, some "```\x7b\x7d```"⟩
    reply.InRange ∧
      ofMessage (String.ofList (reply.toValue.written .compact 0)) = .ok Reply.none := by
  intro reply
  refine ⟨by decide, ?_⟩
  have found : objectPart? (reply.toValue.written .compact 0) = some "\x7b\x7d".toList := by
    decide +kernel
  have empty : skipBlank "\x7b\x7d".toList = (Value.object []).written Layout.compact 0 ++ [] := rfl
  have read : Yields (readRecord shape "\x7b\x7d".toList) Reply.none [] :=
    yields_readRecord Layout.isBlank_compact .nil rfl empty
  rw [ofMessage_of_objectPart? found, ofJson, readWhole_of_yields read rfl]
  rfl

end Bare

end Locution.Reply
