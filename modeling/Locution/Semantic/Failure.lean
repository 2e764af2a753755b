import Locution.Number.Duration

/-!
# Failures of the semantic source

Why the semantic source gave no reply, and the words for it.
-/

namespace Locution

/-- Why the semantic source gave no reply. -/
inductive Failure where
  | missingKey
  /-- Nothing answers at the address. -/
  | unreachable (address : String)
  | timedOut (limit : Duration)
  /-- The exchange broke off or could not begin. -/
  | transport (reason : String)
  | refused (status : Nat) (body : String)
  | emptyResponse
  /-- The answer or the reply in it is not of the expected form. -/
  | unreadable (reason : String)
  deriving DecidableEq

namespace Failure

/-- The words for a failure. -/
def message : Failure → String
  | .missingKey => "API key is not configured"
  | .unreachable address => s!"semantic matcher is unreachable at {address}"
  | .timedOut limit => s!"semantic match timed out after {limit.text}"
  | .transport reason => s!"HTTP client error: {reason}"
  | .refused status body => s!"semantic matcher returned error (status {status}): {body}"
  | .emptyResponse => "semantic matcher returned an empty response"
  | .unreadable reason => s!"JSON parse error: {reason}"

/-- A source that ends without a reply has broken off the exchange. -/
def stopped : Failure :=
  .transport "semantic matcher stopped without replying"

end Failure

end Locution
