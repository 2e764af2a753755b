import Locution.Chat.Client
import Locution.Proofs.Json.RecordDecoding
import Locution.Proofs.Json.WrittenTree

/-! # Questions and answers

The body of a question says one tree, and that tree is a question with one model's name and two
messages only (`saysQuestion_questionBody`). The choices of an answer are read from just the texts
that say one (`choices_eq_ok_iff`). So what a client hears depends on the status and on what the
whole body says (`Client.complete_classified`).
-/

namespace Locution.Chat

open Json

section Question

/-- Whether a tree is a message of somebody. -/
inductive IsMessage (role content : String) : Tree → Prop where
  | object {members : List (List Nat × Tree)}
      (writer : valuesOf "role" members = [.string (unitsOf role)])
      (text : valuesOf "content" members = [.string (unitsOf content)]) :
      IsMessage role content (.object members)

/-- Whether a tree asks a model, with the two messages alone. -/
inductive IsQuestion (model system user : String) : Tree → Prop where
  | object {members : List (List Nat × Tree)} {first second : Tree}
      (name : valuesOf "model" members = [.string (unitsOf model)])
      (messages : valuesOf "messages" members = [.list [first, second]])
      (before : IsMessage "system" system first) (after : IsMessage "user" user second) :
      IsQuestion model system user (.object members)

/-- Whether a text says a question, and nothing else: no other model and no other messages. -/
structure SaysQuestion (model system user : String) (text : List Char) : Prop where
  question : ∃ tree, SaysWhole tree text ∧ IsQuestion model system user tree
  nothingElse : ∀ {tree : Tree} {otherModel otherSystem otherUser : String}, SaysWhole tree text →
    IsQuestion otherModel otherSystem otherUser tree →
      otherModel = model ∧ otherSystem = system ∧ otherUser = user

theorem eq_of_singleton_string {text other : String}
    (same : [Tree.string (unitsOf other)] = [.string (unitsOf text)]) : other = text :=
  unitsOf_inj.mp (Tree.string.inj (List.singleton_inj.mp same))

/-- A message has one content only. -/
theorem IsMessage.content_unique {role content other : String} {tree : Tree}
    (is : IsMessage role content tree) (also : IsMessage role other tree) : other = content := by
  obtain ⟨_, text⟩ := is
  obtain ⟨_, textToo⟩ := also
  exact eq_of_singleton_string (textToo.symm.trans text)

/-- A tree is the question about one model and one pair of messages only. -/
theorem IsQuestion.unique {model system user otherModel otherSystem otherUser : String}
    {tree : Tree} (is : IsQuestion model system user tree)
    (also : IsQuestion otherModel otherSystem otherUser tree) :
    otherModel = model ∧ otherSystem = system ∧ otherUser = user := by
  obtain ⟨name, messages, before, after⟩ := is
  obtain ⟨nameToo, messagesToo, beforeToo, afterToo⟩ := also
  have same := Tree.list.inj (List.singleton_inj.mp (messagesToo.symm.trans messages))
  obtain ⟨rfl, rest⟩ := List.cons.inj same
  obtain rfl := List.singleton_inj.mp rest
  exact ⟨eq_of_singleton_string (nameToo.symm.trans name), before.content_unique beforeToo,
    after.content_unique afterToo⟩

/-- The tree of a message is that of its role and its content. -/
theorem isMessage_tree (role content : String) :
    IsMessage role content (message role content).tree := by
  refine .object ?_ ?_
  · rw [Value.treeMembers, valuesOf_cons_self, Value.treeMembers, valuesOf_cons_of_ne (by decide)]
    rfl
  · rw [Value.treeMembers, valuesOf_cons_of_ne (by decide), Value.treeMembers, valuesOf_cons_self]
    rfl

/-- The tree of a question names the model and has the two messages, and nothing else. -/
theorem isQuestion_tree (settings : Settings) (system user : String) :
    IsQuestion settings.model system user (question settings system user).tree := by
  refine .object ?_ ?_ (isMessage_tree "system" system) (isMessage_tree "user" user)
  · simp only [Value.treeMembers]
    rw [valuesOf_cons_self, valuesOf_cons_of_ne (by decide), valuesOf_cons_of_ne (by decide),
      valuesOf_cons_of_ne (by decide)]
    rfl
  · simp only [Value.treeMembers]
    rw [valuesOf_cons_of_ne (by decide), valuesOf_cons_self, valuesOf_cons_of_ne (by decide),
      valuesOf_cons_of_ne (by decide)]
    rfl

/-- **The body of a question says the model and the two messages**, character for character. -/
theorem saysQuestion_questionBody (settings : Settings) (system user : String) :
    SaysQuestion settings.model system user (questionBody settings system user).toList := by
  have is := isQuestion_tree settings system user
  have whole : SaysWhole (question settings system user).tree
      (questionBody settings system user).toList :=
    (question settings system user).saysWhole_compactText
  refine ⟨⟨_, whole, is⟩, ?_⟩
  intro tree otherModel otherSystem otherUser wholeToo isToo
  obtain rfl := whole.unique wholeToo
  exact is.unique isToo

end Question

section Answer

/-- Whether a tree is the message of a choice; its content may be missing or null. -/
def IsReply (tree : Tree) (content? : Option String) : Prop :=
  ∃ given?, IsRecord "content" false (MayBeNull IsText) tree given? ∧ given?.join = content?

/-- Whether a tree is a choice. -/
def IsChoice (tree : Tree) (content? : Option String) : Prop :=
  IsRecord "message" true IsReply tree (some content?)

/-- Whether a tree is an answer with the given contents of its choices. -/
def IsAnswer (tree : Tree) (contents : List (Option String)) : Prop :=
  IsRecord "choices" true (IsListOf IsChoice) tree (some contents)

theorem not_isText_null (text : String) : ¬ IsText .null text :=
  nofun

/-- The message of a choice is read as the grammar says. -/
theorem decodes_readReply : Decodes (readRecord messageShape) IsReply :=
  decodes_readRecord (decodes_readText.readOptional not_isText_null) rfl rfl

/-- A choice is read as the grammar says. -/
theorem decodes_readChoice : Decodes (readRecord choiceShape) IsChoice := by
  have decodes : Decodes (readRecord choiceShape) fun tree content? =>
      ∃ given, IsRecord "message" true IsReply tree (some given) ∧ given = content? :=
    decodes_readRecord_of_required decodes_readReply rfl rfl fun _ => rfl
  exact decodes.congr fun tree content? => exists_eq_right

/-- The body of an answer is read as the grammar says, with the contents of all its choices. -/
theorem decodes_readAnswer : Decodes (readRecord answerShape) IsAnswer := by
  have decodes : Decodes (readRecord answerShape) fun tree contents =>
      ∃ given, IsRecord "choices" true (IsListOf IsChoice) tree (some given) ∧ given = contents :=
    decodes_readRecord_of_required (decodes_readList decodes_readChoice) rfl rfl fun _ => rfl
  exact decodes.congr fun tree contents => exists_eq_right

/-- **The choices of an answer are read from just the texts that say one.** -/
theorem choices_eq_ok_iff {text : String} {contents : List (Option String)} :
    choices text = .ok contents ↔ ∃ tree, SaysWhole tree text.toList ∧ IsAnswer tree contents :=
  decodes_readAnswer.readWhole_iff

/-- The shortest answer with a content. -/
def answerOf (content : String) : Value :=
  .object [("choices", .list [.object [("message", .object [("content", .string content)])]])]

/-- An answer with one choice has just its content. -/
theorem isAnswer_answerOf (content : String) :
    IsAnswer (answerOf content).tree [some content] := by
  have reply : IsReply (.object [(unitsOf "content", .string (unitsOf content))]) (some content) :=
    ⟨some (some content), isRecord_of_only "content" false (.value rfl), rfl⟩
  have choice : IsChoice (.object [(unitsOf "message",
      .object [(unitsOf "content", .string (unitsOf content))])]) (some content) :=
    isRecord_of_only "message" true reply
  exact isRecord_of_only "choices" true (.list (.cons choice .nil))

end Answer

section Classification

/-- What an answer with a status and a whole body has to come to. Only the first choice counts for
its content. -/
structure Classified (status : Nat) (text : String) (outcome : Except Failure String) : Prop where
  accepted : ∀ content, outcome = .ok content ↔ (200 ≤ status ∧ status < 300) ∧
    (∃ tree others, SaysWhole tree text.toList ∧ IsAnswer tree (some content :: others)) ∧
      Text.isBlank content = false
  refused : ¬ (200 ≤ status ∧ status < 300) → outcome = .error (.refused status text)
  unreadable : 200 ≤ status ∧ status < 300 →
    (∀ tree contents, SaysWhole tree text.toList → ¬ IsAnswer tree contents) →
      outcome = .error undecodable
  empty : 200 ≤ status ∧ status < 300 →
    ∀ tree contents, SaysWhole tree text.toList → IsAnswer tree contents →
      (∀ content ∈ contents.head?.join, Text.isBlank content = true) →
        outcome = .error .emptyResponse

variable {status : Nat} {text : String}

/-- The first choice decides: its content is the answer unless it is blank. -/
theorem readAnswer_of_content {content : String} {others : List (Option String)}
    (read : choices text = .ok (some content :: others)) (filled : Text.isBlank content = false) :
    readAnswer text = .ok content := by
  have kept : (some content).filter (fun content => !Text.isBlank content) = some content :=
    Option.filter_some_pos (by rw [filled, Bool.not_false])
  simp only [readAnswer, read, List.head?_cons, Option.join_some, kept]

/-- An answer without choices, without content or with a blank one is empty. -/
theorem readAnswer_of_blank {contents : List (Option String)} (read : choices text = .ok contents)
    (blank : ∀ content ∈ contents.head?.join, Text.isBlank content = true) :
    readAnswer text = .error .emptyResponse := by
  have dropped : contents.head?.join.filter (fun content => !Text.isBlank content) = none := by
    rw [Option.filter_eq_none_iff]
    intro content member
    rw [blank content member]
    decide
  simp only [readAnswer, read, dropped]

/-- A body that cannot be read as an answer is undecodable, whatever is wrong with it. -/
theorem readAnswer_of_error {fault : Fault} (failed : choices text = .error fault) :
    readAnswer text = .error undecodable := by
  simp only [readAnswer, failed]

/-- A body answers with the content of its first choice, if this is not blank. -/
theorem readAnswer_eq_ok_iff {content : String} : readAnswer text = .ok content ↔
    (∃ others, choices text = .ok (some content :: others)) ∧ Text.isBlank content = false := by
  constructor
  · intro heard
    cases read : choices text with
    | error fault =>
        rw [readAnswer_of_error read] at heard
        cases heard
    | ok contents =>
        by_cases blank : ∀ content ∈ contents.head?.join, Text.isBlank content = true
        · rw [readAnswer_of_blank read blank] at heard
          cases heard
        · -- The first choice has a content that is not blank, so this one is heard.
          simp only [not_forall] at blank
          obtain ⟨first, member, filled⟩ := blank
          obtain ⟨others, rfl⟩ := List.head?_eq_some_iff.mp (Option.join_eq_some_iff.mp member)
          have kept := readAnswer_of_content read (Bool.eq_false_iff.mpr filled)
          obtain rfl := Except.ok.inj (heard.symm.trans kept)
          exact ⟨⟨others, rfl⟩, Bool.eq_false_iff.mpr filled⟩
  · rintro ⟨⟨others, read⟩, filled⟩
    exact readAnswer_of_content read filled

/-- A text that begins with another character than the mark is taken whole. -/
theorem withoutMark_of_head? (noMark : text.toList.head? ≠ some '\ufeff') :
    withoutMark text = text := by
  unfold withoutMark
  split
  · rename_i marked
    rw [marked] at noMark
    exact absurd rfl noMark
  · rfl

/-- A whole body is classified by its status and by what it says. -/
theorem classified_completion (noMark : text.toList.head? ≠ some '\ufeff') :
    Classified status text (completion status (.complete text)) where
  accepted content := by
    by_cases success : 200 ≤ status ∧ status < 300
    · rw [completion, if_pos success, readAnswer_eq_ok_iff]
      simp only [choices_eq_ok_iff, success, true_and]
      rw [exists_comm]
    · rw [completion, if_neg success]
      exact ⟨nofun, fun heard => absurd heard.1 success⟩
  refused failed := by
    rw [completion, if_neg failed, withoutMark_of_head? noMark]
  unreadable success nothing := by
    rw [completion, if_pos success]
    cases read : choices text with
    | error fault => exact readAnswer_of_error read
    | ok contents =>
        obtain ⟨tree, whole, is⟩ := choices_eq_ok_iff.mp read
        exact absurd is (nothing tree contents whole)
  empty success tree contents whole is blank := by
    rw [completion, if_pos success]
    exact readAnswer_of_blank (choices_eq_ok_iff.mpr ⟨tree, whole, is⟩) blank

namespace Client

/-- Whether questions can be posted with the address and the key of a client. -/
def Usable (client : Client) : Prop :=
  (∃ address ∈ Address.read? client.address,
    address.host?.isSome = true ∧ address.withoutUser.isPostable = true) ∧
    isHeaderText client.key = true

variable {client : Client} {σ : Type}

/-- A client that is usable makes a posting of every question. -/
theorem Usable.exists_posting (usable : client.Usable) (system user : String) :
    ∃ posting, client.posting system user = .ok posting ∧
      posting.body = questionBody client.settings system user := by
  obtain ⟨⟨address, read, host, postable⟩, key⟩ := usable
  have found : Address.read? client.address = some address := read
  have hosted : address.host?.isNone = false := Option.isNone_eq_false_iff.mpr host
  simp only [posting, found, hosted, key, postable, Bool.not_true, Bool.false_eq_true, ↓reduceIte]
  exact ⟨_, rfl, rfl⟩

/-- An exchange that takes no longer than the limit has its own outcome and its own delay. -/
theorem outcomeInTime_of_le {address : String} {exchange : Exchange} {delay : Duration}
    (inTime : ∀ limit ∈ client.settings.limit, delay.nanos ≤ limit.nanos) :
    client.outcomeInTime address exchange delay = (client.outcome address exchange, delay) := by
  unfold outcomeInTime
  split
  · rename_i limit limited
    exact if_neg (Nat.not_lt_of_le (inTime limit limited))
  · rfl

/-- A question that can be posted is posted once, and what comes back decides. -/
theorem complete_of_posting {endpoint : Endpoint σ} {line : Line σ} {system user : String}
    {posting : Posting} (made : client.posting system user = .ok posting) :
    client.complete endpoint system user line =
      (client.outcomeInTime posting.address (endpoint posting line.memory).1.1
        (endpoint posting line.memory).1.2,
      ⟨(endpoint posting line.memory).2,
        line.exchanges ++ [(posting, (endpoint posting line.memory).1.1)]⟩) := by
  rw [complete, made]
  rfl

/-- **A usable client asks one question and classifies the answer.** The body that it posts says
its model and the two texts, and nothing else of the kind. A whole body that arrives in time comes
to its content, or to the failure that the status and the body call for. -/
theorem complete_classified (usable : client.Usable) (endpoint : Endpoint σ) (line : Line σ)
    (system user : String) :
    ∃ posting, (client.complete endpoint system user line).2.exchanges =
        line.exchanges ++ [(posting, (endpoint posting line.memory).1.1)] ∧
      SaysQuestion client.settings.model system user posting.body.toList ∧
      ∀ status text delay,
        (endpoint posting line.memory).1 = (.answered status (.complete text), delay) →
        (∀ limit ∈ client.settings.limit, delay.nanos ≤ limit.nanos) →
        text.toList.head? ≠ some '\ufeff' →
        Classified status text (client.complete endpoint system user line).1.1 := by
  obtain ⟨posting, made, body⟩ := usable.exists_posting system user
  refine ⟨posting, by rw [complete_of_posting made], ?_, ?_⟩
  · rw [body]
    exact saysQuestion_questionBody client.settings system user
  · intro status text delay answered inTime noMark
    rw [complete_of_posting made, answered, outcomeInTime_of_le inTime]
    exact classified_completion noMark

/-- A client with the standard settings hears what it is answered at once. -/
theorem complete_classified_standard :
    (Client.mk Settings.standard "key").Usable ∧
      ((Client.mk Settings.standard "key").complete
        (fun _ memory => ((.answered 200 (.complete (answerOf "yes").compactText), ⟨0⟩), memory))
        "system" "user" ⟨(), []⟩).1.1 = .ok "yes" := by
  have usable : (Client.mk Settings.standard "key").Usable := by
    unfold Usable
    decide +kernel
  have noMark : (answerOf "yes").compactText.toList.head? ≠ some '\ufeff' := by
    rw [Value.compactText, String.toList_ofList]
    decide
  obtain ⟨posting, _, _, classified⟩ := complete_classified usable
    (fun _ memory => ((.answered 200 (.complete (answerOf "yes").compactText), ⟨0⟩), memory))
    (⟨(), []⟩ : Line Unit) "system" "user"
  have heard := classified 200 (answerOf "yes").compactText ⟨0⟩ rfl
    (fun _ _ => Nat.zero_le _) noMark
  exact ⟨usable, (heard.accepted "yes").mpr ⟨by decide,
    ⟨_, [], (answerOf "yes").saysWhole_compactText, isAnswer_answerOf "yes"⟩, by decide⟩⟩

end Client

end Classification

end Locution.Chat
