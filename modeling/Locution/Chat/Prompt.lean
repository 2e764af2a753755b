import Locution.Text.Quoted

/-!
# Prompts

What a chat model is told: one text that is the same for every question, and one text for the
question itself. The expression and the sentence stand in quotation marks on lines of their own, so
no expression or sentence can pass for another part of the question.
-/

namespace Locution.Chat

/-- What the model is told before every question. -/
def systemPrompt : String :=
  "You match business English expressions to the sentences that use them.\n\n" ++
  "Find where the expression appears in the sentence, even when:\n" ++
  "1. Slots like (someone) or (something) are filled with real words " ++
  "(me, you, him, the project, ...)\n" ++
  "2. Symbols like ~ or ... stand for a continuation or a variation\n" ++
  "3. The possessive one's appears as my, your, his, her, their, its or our\n\n" ++
  "Reply with a single JSON object and nothing else:\n" ++
  "\x7b\"matched\": true|false, \"start_index\": <0-based character offset>, " ++
  "\"end_index\": <exclusive character offset>, " ++
  "\"matched_text\": \"<exact text copied from the sentence>\"\x7d\n\n" ++
  "If the expression does not appear, reply \x7b\"matched\": false\x7d.\n\n" ++
  "Examples:\n" ++
  "Expression: \"take (someone) through\"\n" ++
  "Sentence: \"Can you take me through the budget proposal?\"\n" ++
  "\x7b\"matched\": true, \"start_index\": 8, \"end_index\": 23, " ++
  "\"matched_text\": \"take me through\"\x7d\n\n" ++
  "Expression: \"catch (someone) up on (something)\"\n" ++
  "Sentence: \"Can you catch me up on what happened?\"\n" ++
  "\x7b\"matched\": true, \"start_index\": 8, \"end_index\": 36, " ++
  "\"matched_text\": \"catch me up on what happened\"\x7d\n\n" ++
  "Expression: \"one's responsibility\"\n" ++
  "Sentence: \"It's your responsibility to finish this.\"\n" ++
  "\x7b\"matched\": true, \"start_index\": 5, \"end_index\": 24, " ++
  "\"matched_text\": \"your responsibility\"\x7d"

/-- The question about an expression and a sentence. -/
def userPrompt (expression sentence : String) : String :=
  "Find where this expression appears in the sentence.\n\n" ++
  "Expression: " ++ Text.quoted expression ++ "\n" ++
  "Sentence: " ++ Text.quoted sentence ++ "\n\n" ++
  "Reply with the JSON object only."

end Locution.Chat
