import Locution.Command.Arguments

/-!
# Texts on the use of the program

The text on the use of the program, the text about its version, and what is said about a command
line that cannot be followed.
-/

namespace Locution.Command

/-- The text about the version. -/
def versionText : String := "idiomspan 0.1.0\n"

/-- The exit code for a command line that cannot be followed. -/
def usageExit : Nat := 2

/-- The text on the use of the program. -/
def usageText : String :=
  "Find the span of a sentence that realizes an idiom template\n\n" ++
  "Usage: idiomspan [OPTIONS] <COMMAND>\n\n" ++
  "Commands:\n" ++
  "  find <EXPRESSION> <SENTENCE>   Locate one expression in one sentence\n" ++
  "  batch <INPUT>                  Match a JSON list of requests (\"-\" for stdin)\n" ++
  "  scan <CORPUS> [--mismatches]   Match every example of a corpus\n" ++
  "  pattern <EXPRESSION>           Show the pattern of an expression\n\n" ++
  "Options:\n" ++
  "      --no-fallback       Only use the pattern tier\n" ++
  "      --json              Print results as JSON\n" ++
  "  -s, --sequential        Match items one at a time\n" ++
  "      --no-color          Disable colored output\n" ++
  "  -v, --verbose           Show progress and log more\n" ++
  "      --timeout <SECONDS> Seconds to wait for each semantic match [30]\n" ++
  "      --model <NAME>      Chat model [OPENAI_MODEL]\n" ++
  "      --api-base <URL>    Base address of the chat model [OPENAI_BASE_URL]\n" ++
  "      --api-key <KEY>     Key of the chat model [OPENAI_API_KEY]\n"

namespace UsageError

/-- What is said about a command line that cannot be followed. -/
def message : UsageError → String
  | .nothingAsked => usageText
  | .taskMissing => "error: a command is required\n"
  | .unknownTask => "error: unrecognized command\n"
  | .operandMissing => "error: a required argument was not provided\n"
  | .unknownArgument => "error: unexpected argument\n"
  | .repeatedArgument => "error: an argument is used twice\n"
  | .unneededValue => "error: unexpected value\n"
  | .emptyValue => "error: a value is required\n"
  | .unreadableValue => "error: invalid value\n"
  | .helpAsked => usageText
  | .versionAsked => versionText

/-- Whether the user asked for nothing but a text about the program. -/
def isRequestForText : UsageError → Bool
  | .helpAsked => true
  | .versionAsked => true
  | _ => false

end UsageError

end Locution.Command
