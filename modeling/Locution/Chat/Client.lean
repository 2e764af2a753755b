import Locution.Address.Reader
import Locution.Address.Use
import Locution.Chat.Completion
import Locution.Chat.Prompt
import Locution.Semantic.Source

/-!
# Asking a chat model

A client is made from settings with a key. It turns a question into one posting to an endpoint and
what comes back into a text or a failure. As a semantic source it sends the two prompts and reads
the reply in the text. Every posting is kept, so that it can be counted.
-/

namespace Locution.Chat

/-- Who asks a chat model. -/
structure Client where
  settings : Settings
  key : String

namespace Client

/-- The client for settings; there is none without a key. -/
def ofSettings (settings : Settings) : Except Failure Client :=
  match settings.usableKey? with
  | some key => .ok ⟨settings, key⟩
  | none => .error .missingKey

/-- The address of the model without slashes at its end. -/
def base (client : Client) : String :=
  String.ofList (client.settings.base.toList.reverse.dropWhile (· == '/')).reverse

/-- The address to which questions are posted. -/
def address (client : Client) : String :=
  client.base ++ "/chat/completions"

end Client

/-- A question on its way. -/
structure Posting where
  address : String
  key : String
  body : String
  deriving DecidableEq

/-- What happens to a posting. -/
inductive Exchange where
  | unreachable
  | dropped
  | answered (status : Nat) (body : Body)

/-- Where questions are posted: what happens to each, and how long it takes. -/
abbrev Endpoint (σ : Type) := Posting → σ → (Exchange × Duration) × σ

/-- The memory of an endpoint, and every posting with what happened to it, the first one first. -/
structure Line (σ : Type) where
  memory : σ
  exchanges : List (Posting × Exchange)

namespace Line

variable {σ : Type}

/-- Whether something listened. -/
def arrived (exchange : Posting × Exchange) : Bool :=
  match exchange.2 with
  | .unreachable => false
  | .dropped => true
  | .answered _ _ => true

/-- The postings that reached the endpoint. -/
def received (line : Line σ) : List Posting :=
  (line.exchanges.filter arrived).map (·.1)

/-- Posts a question. -/
def post (line : Line σ) (endpoint : Endpoint σ) (posting : Posting) :
    (Exchange × Duration) × Line σ :=
  let (outcome, memory) := endpoint posting line.memory
  (outcome, ⟨memory, line.exchanges ++ [(posting, outcome.1)]⟩)

end Line

namespace Client

/-- Whether a key can stand in the head of a posting. -/
def isHeaderText (key : String) : Bool :=
  key.toList.all fun c => c == '\t' || (0x20 ≤ c.toNat && c.toNat != 0x7f)

/-- An address cannot be used. -/
def unusable (address : Address) : Failure :=
  .transport s!"builder error for url ({address.text})"

/-- The posting for a question, unless it cannot be made. -/
def posting (client : Client) (system user : String) : Except Failure Posting :=
  match Address.read? client.address with
  | none => .error (.transport "builder error")
  | some address =>
    if address.host?.isNone then .error (unusable address)
    else if !isHeaderText client.key then .error (.transport "builder error")
    else if !address.withoutUser.isPostable then .error (unusable address.withoutUser)
    else
      .ok ⟨address.withoutUser.text, client.key, questionBody client.settings system user⟩

/-- What an exchange at an address comes to. -/
def outcome (client : Client) (address : String) : Exchange → Except Failure String
  | .unreachable => .error (.unreachable client.base)
  | .dropped => .error (.transport s!"error sending request for url ({address})")
  | .answered status body => completion status body

/-- What an exchange at an address comes to within the time limit of the client, and how long that
takes. -/
def outcomeInTime (client : Client) (address : String) (exchange : Exchange) (delay : Duration) :
    Except Failure String × Duration :=
  match client.settings.limit with
  | some limit =>
    if limit.nanos < delay.nanos then (.error (.timedOut limit), limit)
    else (client.outcome address exchange, delay)
  | none => (client.outcome address exchange, delay)

/-- Asks for a completion. -/
def complete {σ : Type} (client : Client) (endpoint : Endpoint σ) (system user : String)
    (line : Line σ) : (Except Failure String × Duration) × Line σ :=
  match client.posting system user with
  | .error failure => ((.error failure, ⟨0⟩), line)
  | .ok posting =>
    let ((exchange, delay), line) := line.post endpoint posting
    (client.outcomeInTime posting.address exchange delay, line)

end Client

/-- What a text of the model, or the failure to get one, comes to for a semantic source. -/
def response (expression : String) (outcome : Except Failure String) (delay : Duration) :
    Response :=
  match outcome with
  | .error failure => ⟨.fails failure, delay, []⟩
  | .ok text =>
    ⟨.ofOutcome (Reply.ofMessage text), delay,
      [Note.about .debug "semantic matcher replied" expression [("reply", .plain text)]]⟩

/-- A chat model as a semantic source. -/
def Client.source {σ : Type} (client : Client) (endpoint : Endpoint σ) : Source (Line σ) :=
  fun expression sentence line =>
    let ((outcome, delay), line) :=
      client.complete endpoint systemPrompt (userPrompt expression sentence) line
    (response expression outcome delay, line)

end Locution.Chat
