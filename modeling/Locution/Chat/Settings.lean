import Locution.Number.Duration
import Locution.Text.Blank
import Locution.Text.Quoted

/-!
# Settings of the chat model

Where the model is asked, with which key, and how it should answer. The description of the settings
never shows the key.
-/

namespace Locution.Chat

/-- Settings of the chat model. -/
structure Settings where
  base : String
  key : Option String
  model : String
  /-- How freely the model may choose its words, as a number of 32 bits. -/
  temperature : Binary
  maxTokens : Nat
  /-- How long to wait for an answer; for ever when it is zero. -/
  timeout : Duration

namespace Settings

/-- One tenth, as near as 32 bits allow. -/
def mildTemperature : Binary :=
  (Binary.nearest? singleFormat 1 10).getD Binary.zero

/-- The settings where nothing else is said. -/
def standard : Settings where
  base := "https://api.openai.com/v1"
  key := none
  model := "gpt-4o-mini"
  temperature := mildTemperature
  maxTokens := 200
  timeout := .ofSeconds 30

/-- The key, unless it is blank. -/
def usableKey? (settings : Settings) : Option String :=
  settings.key.filter fun key => !Text.isBlank key

/-- Whether a key is set that is not blank. -/
def hasKey (settings : Settings) : Bool :=
  settings.usableKey?.isSome

/-- How long to wait for an answer, if not for ever. -/
def limit (settings : Settings) : Option Duration :=
  if settings.timeout.nanos = 0 then none else some settings.timeout

/-- The temperature in the description: the fewest digits that read back. -/
def temperatureText (x : Binary) : String :=
  String.ofList (x.text singleFormat)

/-- The settings in words. A key is only said to be there. -/
def describe (settings : Settings) : String :=
  let key := if settings.key.isSome then "Some(\"<redacted>\")" else "None"
  let base := Text.quoted settings.base
  let model := Text.quoted settings.model
  let temperature := temperatureText settings.temperature
  let maxTokens := settings.maxTokens
  let timeout := settings.timeout.text
  s!"LlmConfig \x7b base_url: {base}, api_key: {key}, model: {model}, " ++
    s!"temperature: {temperature}, max_tokens: {maxTokens}, timeout: {timeout} \x7d"

end Settings

end Locution.Chat
