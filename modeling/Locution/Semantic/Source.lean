import Locution.Journal
import Locution.Semantic.Reply

/-!
# Semantic sources

A semantic source is asked whether a sentence contains an expression in other words. It may reply,
fail or crash, and takes some time. It may remember earlier questions, so it is a function of its
memory too.
-/

namespace Locution

/-- How a source meets a question. -/
inductive Conduct where
  | replies (reply : Reply)
  | fails (failure : Failure)
  | crashes

/-- What comes of asking a source. -/
structure Response where
  conduct : Conduct
  delay : Duration
  notes : List Note

/-- A source with a memory of type `σ`, asked about an expression and a sentence. -/
abbrev Source (σ : Type) := (expression sentence : String) → σ → Response × σ

namespace Conduct

/-- A reply, or the failure for having none. -/
def outcome : Conduct → Except Failure Reply
  | .replies reply => .ok reply
  | .fails failure => .error failure
  | .crashes => .error Failure.stopped

/-- The conduct of a source that gives a reply or fails. -/
def ofOutcome : Except Failure Reply → Conduct
  | .ok reply => .replies reply
  | .error failure => .fails failure

end Conduct

end Locution
