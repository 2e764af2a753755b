import Locution.Pattern.Estimate
import Locution.Semantic.Verdict
import Locution.Proofs.Text.Lowercase
import Locution.Proofs.Text.Window

/-! # Which verdict a reply earns

The four verdicts are earned under conditions that exclude each other and leave nothing out
(`Reply.Earns`), and checking a reply finds the one it earns (`Reply.judge_eq_iff`). Acceptance
compares lowercases and the search compares characters up to simple case folding. So a claim that is
right up to folding can still be moved to another place (`Reply.judge_so_it_is`), but only where the
two comparisons differ (`Reply.judge_at_claimed_place`).
-/

namespace Locution.Reply

open Text

/-- Whether a reply claims a match at characters of a sentence. -/
structure Claims (reply : Reply) (sentence : List Char) (first last : Nat) : Prop where
  matched : reply.matched = true
  start : reply.start = some (first : Int)
  stop : reply.stop = some (last : Int)
  ordered : first < last
  within : last ≤ sentence.length

/-- Whether characters of a sentence have the lowercase of the claimed text. -/
def Agrees (reply : Reply) (sentence : List Char) (first last : Nat) : Prop :=
  lowercase (slice sentence first last) = lowercase reply.claimedText.toList

/-- Whether a reply claims a match, but not at characters that agree with the claimed text. -/
structure Misplaced (reply : Reply) (sentence : List Char) : Prop where
  matched : reply.matched = true
  apart : ∀ first last, reply.Claims sentence first last → ¬ reply.Agrees sentence first last

/-- The conditions of each verdict. -/
inductive Earns (sentence : List Char) (reply : Reply) : Verdict → Prop where
  | unmatched (unclaimed : reply.matched = false) : Earns sentence reply .unmatched
  | accepted {first last : Nat} (claims : reply.Claims sentence first last)
      (agrees : reply.Agrees sentence first last) :
      Earns sentence reply
        (.accepted (byteLength (sentence.take first)) (byteLength (sentence.take last)))
  | repaired {first : Nat} (misplaced : reply.Misplaced sentence)
      (filled : isBlank reply.claimedText = false)
      (window : IsFirstWindow reply.claimedText.toList sentence first) :
      Earns sentence reply
        (.repaired (byteLength (sentence.take first))
          (byteLength (sentence.take (first + reply.claimedText.toList.length))))
  | rejected (misplaced : reply.Misplaced sentence)
      (nowhere : isBlank reply.claimedText = true ∨
        ∀ first, ¬ IsWindow reply.claimedText.toList sentence first) :
      Earns sentence reply (.rejected reply.rejection)

variable {sentence : List Char} {reply : Reply}

/-- A claimed place is a number that is not negative. -/
theorem place?_eq_some_iff {claimed : Option Int} {place : Nat} :
    place? claimed = some place ↔ claimed = some (place : Int) := by
  cases claimed with
  | none => simp only [place?, reduceCtorEq]
  | some n =>
      cases n with
      | ofNat n => simp only [place?, Option.some.injEq, Int.ofNat_eq_natCast, Int.natCast_inj]
      | negSucc n => simp only [place?, Option.some.injEq, reduceCtorEq]

/-- A claimed range of bytes is that of claimed characters. -/
theorem claims_of_claimedRange? {start stop : Nat} (matched : reply.matched = true)
    (found : reply.claimedRange? sentence = some (start, stop)) :
    ∃ first last, reply.Claims sentence first last := by
  simp only [claimedRange?, Option.bind_eq_bind, Option.bind_eq_some_iff] at found
  obtain ⟨first, startAt, last, stopAt, bytes⟩ := found
  rw [byteRange?, Option.ite_none_right_eq_some] at bytes
  exact ⟨first, last, matched, place?_eq_some_iff.mp startAt, place?_eq_some_iff.mp stopAt,
    bytes.1.1, bytes.1.2⟩

namespace Claims

variable {first last : Nat}

/-- The claimed range of bytes is that of the claimed characters. -/
theorem claimedRange?_eq (claims : reply.Claims sentence first last) :
    reply.claimedRange? sentence =
      some (byteLength (sentence.take first), byteLength (sentence.take last)) := by
  have start := place?_eq_some_iff.mpr claims.start
  have stop := place?_eq_some_iff.mpr claims.stop
  have inside : first < last ∧ last ≤ sentence.length := ⟨claims.ordered, claims.within⟩
  simp only [claimedRange?, start, stop, byteRange?, inside, and_self, ↓reduceIte,
    Option.bind_eq_bind, Option.bind_some]

/-- A claim holds at its place when it agrees with the characters there. -/
theorem holdsAt_iff (claims : reply.Claims sentence first last) :
    reply.holdsAt sentence = true ↔ reply.Agrees sentence first last := by
  have start := place?_eq_some_iff.mpr claims.start
  have stop := place?_eq_some_iff.mpr claims.stop
  simp only [holdsAt, start, stop, Agrees, beq_iff_eq]

/-- A claim that agrees with its characters is accepted, however much space its text takes. -/
theorem judge_eq_accepted [SearchSize] {sentence : String}
    (claims : reply.Claims sentence.toList first last)
    (agrees : reply.Agrees sentence.toList first last) :
    reply.judge sentence =
      .accepted (byteLength (sentence.toList.take first))
        (byteLength (sentence.toList.take last)) := by
  have held := claims.holdsAt_iff.mpr agrees
  simp only [judge, claims.matched, claims.claimedRange?_eq, held, Bool.not_true,
    Bool.false_eq_true, ↓reduceIte, Option.filter_some]

/-- A reply claims one range only. -/
theorem unique {first' last' : Nat} (claims : reply.Claims sentence first last)
    (other : reply.Claims sentence first' last') : first' = first ∧ last' = last := by
  have start := other.start.symm.trans claims.start
  have stop := other.stop.symm.trans claims.stop
  simp only [Option.some.injEq, Int.ofNat_inj] at start stop
  exact ⟨start, stop⟩

/-- A claim that does not agree with the sentence is misplaced. -/
theorem misplaced (claims : reply.Claims sentence first last)
    (differs : ¬ reply.Agrees sentence first last) : reply.Misplaced sentence := by
  refine ⟨claims.matched, fun first' last' other => ?_⟩
  obtain ⟨rfl, rfl⟩ := claims.unique other
  exact differs

end Claims

/-- A misplaced claim leaves no range to be accepted. -/
theorem Misplaced.filter_eq_none (misplaced : reply.Misplaced sentence) :
    (reply.claimedRange? sentence).filter (fun _ => reply.holdsAt sentence) = .none := by
  cases found : reply.claimedRange? sentence with
  | none => rfl
  | some range =>
      obtain ⟨first, last, claims⟩ := claims_of_claimedRange? misplaced.matched found
      have apart := misplaced.apart first last claims
      rw [← claims.holdsAt_iff, Bool.not_eq_true] at apart
      rw [Option.filter_some, apart, if_neg Bool.false_ne_true]

section Judge

variable [SearchSize]

/-- A claimed text is searched for and found at the first place where it stands. -/
theorem searchedRange?_of_isFirstWindow {first : Nat}
    (fits : Pattern.fits [.literal reply.claimedText.toList] = true)
    (filled : isBlank reply.claimedText = false)
    (window : IsFirstWindow reply.claimedText.toList sentence first) :
    reply.searchedRange? sentence =
      some (byteLength (sentence.take first),
        byteLength (sentence.take (first + reply.claimedText.toList.length))) := by
  have counts : 0 < reply.claimedText.toList.length := by
    rw [List.length_pos_iff]
    intro empty
    rw [isBlank, empty, List.all_nil] at filled
    cases filled
  have found := findFolded?_eq_some_iff.mpr window
  have inside : first < first + reply.claimedText.toList.length ∧
      first + reply.claimedText.toList.length ≤ sentence.length :=
    ⟨Nat.lt_add_of_pos_right counts, window.1.1⟩
  simp only [searchedRange?, filled, Bool.false_eq_true, ↓reduceIte, fits, found,
    Option.bind_some, byteRange?, inside, and_self]

/-- A claimed text that is blank or stands nowhere is not found. -/
theorem searchedRange?_eq_none
    (nowhere : isBlank reply.claimedText = true ∨
      ∀ first, ¬ IsWindow reply.claimedText.toList sentence first) :
    reply.searchedRange? sentence = .none := by
  dsimp only [searchedRange?]
  split
  · rfl
  · rename_i filled
    have absent := nowhere.resolve_left filled
    split
    · rw [findFolded?_eq_none_iff.mpr absent, Option.bind_none]
    · rfl

/-- Checking a reply finds the verdict it earns. -/
theorem judge_of_earns {sentence : String} {verdict : Verdict}
    (fits : Pattern.fits [.literal reply.claimedText.toList] = true)
    (earned : reply.Earns sentence.toList verdict) : reply.judge sentence = verdict := by
  cases earned with
  | unmatched unclaimed => simp only [judge, unclaimed, Bool.not_false, ↓reduceIte]
  | accepted claims agrees => exact claims.judge_eq_accepted agrees
  | repaired misplaced filled window =>
      have passed := misplaced.filter_eq_none
      have found := searchedRange?_of_isFirstWindow fits filled window
      simp only [judge, misplaced.matched, passed, found, Bool.not_true, Bool.false_eq_true,
        ↓reduceIte]
  | rejected misplaced nowhere =>
      have passed := misplaced.filter_eq_none
      have missed := searchedRange?_eq_none nowhere
      simp only [judge, misplaced.matched, passed, missed, Bool.not_true, Bool.false_eq_true,
        ↓reduceIte]

/-- A claim that is not where it says is not accepted, however much space its text takes. -/
theorem Misplaced.judge_ne_accepted {sentence : String}
    (misplaced : reply.Misplaced sentence.toList) (start stop : Nat) :
    reply.judge sentence ≠ .accepted start stop := by
  have passed := misplaced.filter_eq_none
  simp only [judge, misplaced.matched, passed, Bool.not_true, Bool.false_eq_true, ↓reduceIte]
  split <;> exact Verdict.noConfusion

omit [SearchSize] in
/-- A reply earns some verdict. -/
theorem exists_earns (sentence : List Char) (reply : Reply) :
    ∃ verdict, reply.Earns sentence verdict := by
  by_cases matched : reply.matched = true
  · by_cases held : ∃ first last, reply.Claims sentence first last ∧
        reply.Agrees sentence first last
    · obtain ⟨first, last, claims, agrees⟩ := held
      exact ⟨_, .accepted claims agrees⟩
    · have misplaced : reply.Misplaced sentence :=
        ⟨matched, fun first last claims agrees => held ⟨first, last, claims, agrees⟩⟩
      by_cases blank : isBlank reply.claimedText = true
      · exact ⟨_, .rejected misplaced (.inl blank)⟩
      · by_cases stands : ∃ place, IsWindow reply.claimedText.toList sentence place
        · obtain ⟨place, window⟩ := stands
          obtain ⟨first, _, leftmost⟩ := window.exists_first
          exact ⟨_, .repaired misplaced (eq_false_of_ne_true blank) leftmost⟩
        · exact ⟨_, .rejected misplaced (.inr (not_exists.mp stands))⟩
  · exact ⟨_, .unmatched (eq_false_of_ne_true matched)⟩

/-- **Checking a reply decides exactly.** If the claimed text is small enough to be searched for,
the verdict on a reply is the one whose conditions hold. -/
theorem judge_eq_iff (sentence : String) (reply : Reply) (verdict : Verdict)
    (fits : Pattern.fits [.literal reply.claimedText.toList] = true) :
    reply.judge sentence = verdict ↔ reply.Earns sentence.toList verdict := by
  constructor
  · rintro rfl
    obtain ⟨earned, earns⟩ := exists_earns sentence.toList reply
    rwa [judge_of_earns fits earns]
  · exact judge_of_earns fits

end Judge

/-- A text that was claimed at other characters is moved to the place behind the accented ones. -/
theorem judge_eq_iff_on_board :
    let reply : Reply := ⟨true, some 5, some 8, some "On Board"⟩
    Pattern.fits [.literal reply.claimedText.toList] = true ∧
      reply.Earns "Café staff got on board; get ON BOARD!".toList (.repaired 16 24) := by
  intro reply
  have fits : Pattern.fits [.literal reply.claimedText.toList] = true := by decide +kernel
  refine ⟨fits, (judge_eq_iff _ reply _ fits).mp ?_⟩
  decide +kernel

/-- Where the claimed text stands up to folding, the search comes to this place or one before. -/
theorem Claims.exists_isFirstWindow {first last : Nat} (claims : reply.Claims sentence first last)
    (same : SameFolded reply.claimedText.toList (slice sentence first last)) :
    ∃ place ≤ first, IsFirstWindow reply.claimedText.toList sentence place := by
  have within := claims.within
  have ordered := claims.ordered
  have long : reply.claimedText.toList.length = last - first := by
    rw [same.length_eq, slice, List.length_take, List.length_drop]
    omega
  have upTo : first + reply.claimedText.toList.length = last := by omega
  have window : IsWindow reply.claimedText.toList sentence first := by
    rw [IsWindow, upTo]
    exact ⟨within, same⟩
  exact window.exists_first

section Claimed

variable [SearchSize]

/-- A claim that is right up to folding only is moved, to the first place that has the text. -/
theorem Claims.exists_repaired {sentence : String} {first last : Nat}
    (claims : reply.Claims sentence.toList first last)
    (fits : Pattern.fits [.literal reply.claimedText.toList] = true)
    (filled : isBlank reply.claimedText = false)
    (same : SameFolded reply.claimedText.toList (slice sentence.toList first last))
    (differs : ¬ reply.Agrees sentence.toList first last) :
    ∃ place ≤ first, IsFirstWindow reply.claimedText.toList sentence.toList place ∧
      reply.judge sentence =
        .repaired (byteLength (sentence.toList.take place))
          (byteLength (sentence.toList.take (place + reply.claimedText.toList.length))) := by
  obtain ⟨place, below, window⟩ := claims.exists_isFirstWindow same
  have earned := Earns.repaired (claims.misplaced differs) filled window
  exact ⟨place, below, window, judge_of_earns fits earned⟩

/-- **A claim that is right up to folding is accepted where the lowercases agree as well.** Else it
is moved to the first place that has the text, if the text is small enough to be searched for. The
lowercases agree if all characters have the lowercase of what they fold to, as those of ASCII
do. -/
theorem judge_at_claimed_place (sentence : String) (reply : Reply) (first last : Nat)
    (claims : reply.Claims sentence.toList first last)
    (filled : isBlank reply.claimedText = false)
    (same : SameFolded reply.claimedText.toList (slice sentence.toList first last)) :
    (reply.judge sentence =
        .accepted (byteLength (sentence.toList.take first))
          (byteLength (sentence.toList.take last)) ↔
      reply.Agrees sentence.toList first last) ∧
    (Pattern.fits [.literal reply.claimedText.toList] = true →
      ¬ reply.Agrees sentence.toList first last →
        ∃ place ≤ first, IsFirstWindow reply.claimedText.toList sentence.toList place ∧
          reply.judge sentence =
            .repaired (byteLength (sentence.toList.take place))
              (byteLength (sentence.toList.take (place + reply.claimedText.toList.length)))) ∧
    ((∀ c ∈ reply.claimedText.toList, keepsLowercase c = true) →
      (∀ c ∈ slice sentence.toList first last, keepsLowercase c = true) →
        reply.Agrees sentence.toList first last) := by
  refine ⟨⟨?_, claims.judge_eq_accepted⟩, ?_, ?_⟩
  · intro accepted
    by_contra differs
    exact (claims.misplaced differs).judge_ne_accepted _ _ accepted
  · intro fits differs
    exact claims.exists_repaired fits filled same differs
  · exact lowercase_eq_of_sameFolded same

end Claimed

/-- The second of two places that have a text is accepted. -/
theorem judge_at_claimed_place_stop :
    let reply : Reply := ⟨true, some 11, some 15, some "stop"⟩
    reply.Claims "Stop, then STOP here.".toList 11 15 ∧ isBlank reply.claimedText = false ∧
      SameFolded reply.claimedText.toList (slice "Stop, then STOP here.".toList 11 15) ∧
      reply.judge "Stop, then STOP here." = .accepted 11 15 := by
  intro reply
  have claims : reply.Claims "Stop, then STOP here.".toList 11 15 :=
    ⟨rfl, rfl, rfl, by decide, by decide +kernel⟩
  have filled : isBlank reply.claimedText = false := by decide +kernel
  have same : SameFolded reply.claimedText.toList (slice "Stop, then STOP here.".toList 11 15) := by
    unfold SameFolded
    decide +kernel
  have keptClaimed : ∀ c ∈ reply.claimedText.toList, keepsLowercase c = true :=
    keepsLowercase_of_all_ascii (by decide +kernel)
  have keptText : ∀ c ∈ slice "Stop, then STOP here.".toList 11 15, keepsLowercase c = true :=
    keepsLowercase_of_all_ascii (by decide +kernel)
  obtain ⟨accepted, _, kept⟩ := judge_at_claimed_place _ _ _ _ claims filled same
  exact ⟨claims, filled, same, accepted.mpr (kept keptClaimed keptText)⟩

/-- A text that is right up to folding, with a long s, is moved to the beginning. -/
theorem judge_so_it_is :
    let reply : Reply := ⟨true, some 9, some 11, some "so"⟩
    reply.Claims "So it is ſo".toList 9 11 ∧ isBlank reply.claimedText = false ∧
      SameFolded reply.claimedText.toList (slice "So it is ſo".toList 9 11) ∧
      reply.judge "So it is ſo" = .repaired 0 2 := by
  intro reply
  have claims : reply.Claims "So it is ſo".toList 9 11 :=
    ⟨rfl, rfl, rfl, by decide, by decide +kernel⟩
  refine ⟨claims, by decide +kernel, ?_, by decide +kernel⟩
  unfold SameFolded
  decide +kernel

end Locution.Reply
