import Locution.Desk
import Locution.Finding
import Locution.Semantic.Verdict

/-!
# The arbiter

The arbiter asks the semantic source, waits no longer than its time limit, and turns what comes of
it into a finding. Without a time limit it catches a crash itself. With one the source works as a
helper that sends its answer: the arbiter hears an answer that is there before the time is up, or
that the helper is gone. Whatever the source does, the finding belongs to the semantic tier.
-/

namespace Locution

/-- Who asks the semantic source. -/
structure Arbiter (σ : Type) where
  source : Source σ
  /-- How long to wait for an answer; without a limit, for ever. -/
  limit : Option Duration

/-- What comes of waiting for a helper. -/
inductive Wait where
  | answered (answer : Except Failure Reply)
  /-- The time is up. -/
  | elapsed
  /-- The helper is gone and has sent nothing. -/
  | abandoned

namespace Response

/-- Waits until a helper answers or is gone, or the time is up. -/
def await (limit : Duration) (response : Response) : Wait :=
  if response.delay.nanos < limit.nanos then
    match response.conduct with
    | .replies reply => .answered (.ok reply)
    | .fails failure => .answered (.error failure)
    | .crashes => .abandoned
  else .elapsed

/-- What is heard of a response within a time limit. -/
def heard (limit : Option Duration) (response : Response) : Except Failure Reply :=
  match limit with
  | some limit =>
    match response.await limit with
    | .answered answer => answer
    | .elapsed => .error (.timedOut limit)
    | .abandoned => .error Failure.stopped
  | none => response.conduct.outcome

/-- The notes of the source that are seen within a time limit. -/
def seenNotes (limit : Option Duration) (response : Response) : List Note :=
  match limit with
  | some limit =>
    if response.delay.nanos < limit.nanos then response.notes.map Note.putAside else []
  | none => response.notes

end Response

namespace Arbiter

variable [SearchSize]

/-- The finding for a reply or a failure, with the notes on it. -/
def settle (expression sentence : String) : Except Failure Reply → Finding × List Note
  | .error failure =>
    (Finding.failed .semantic failure.message,
      [Note.about .warn "semantic match failed" expression [("error", .plain failure.message)]])
  | .ok reply =>
    match reply.judge sentence with
    | .accepted start stop => (Finding.ofBytes sentence start stop .semantic, [])
    | .repaired start stop =>
      let finding := Finding.ofBytes sentence start stop .semantic
      (finding, [Note.about .info "repaired semantic match offsets" expression [
        ("claimed_start", .ofInt? reply.start), ("claimed_end", .ofInt? reply.stop),
        ("start", .ofNat finding.start), ("end", .ofNat finding.stop)]])
    | .unmatched => (Finding.unmatched .semantic, [])
    | .rejected reason =>
      (Finding.failed .semantic reason,
        [Note.about .warn "rejected semantic match" expression [("reason", .plain reason)]])

/-- Asks the source about a request and settles it. -/
def resolve {σ : Type} (arbiter : Arbiter σ) (expression sentence : String) (desk : Desk σ) :
    Finding × Desk σ :=
  let (response, desk) := desk.ask arbiter.source expression sentence
  let (finding, notes) := settle expression sentence (response.heard arbiter.limit)
  (finding, desk.note (response.seenNotes arbiter.limit ++ notes))

end Arbiter

end Locution
