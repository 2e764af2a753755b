import Locution.Command.Run
import Locution.Command.Usage

/-!
# The program

Reads the command line and the surroundings, runs the command, and prints what comes of it. The
program opens no connection of its own, so nothing listens at any endpoint.
-/

open Locution.Command

namespace Locution

/-- An endpoint at which nothing listens. -/
def closedEndpoint : Chat.Endpoint Unit :=
  fun _ memory => ((.unreachable, ⟨0⟩), memory)

/-- The failure to read that an error of the system stands for. -/
def readFailureOf : IO.Error → ReadFailure
  | .noFileOrDirectory _ _ _ => .noSuchFile
  | .inappropriateType _ 21 _ => .isADirectory
  | .inappropriateType _ _ "not a directory" => .notADirectory
  | error => .other error.toString

/-- Reads bytes as a text. -/
def readText (bytes : IO ByteArray) : IO (Except ReadFailure String) := do
  try
    return textOfBytes (← bytes)
  catch error =>
    return .error (readFailureOf error)

/-- Reads what the task of some arguments needs. -/
def placeFor (arguments : Arguments) (showsColour : Bool) : IO (Place Unit) := do
  let fromInput := do
    let stdin ← IO.getStdin
    readText stdin.readBinToEnd
  let absent := Except.error ReadFailure.noSuchFile
  let place := fun file input => Place.mk (fun _ => file) input closedEndpoint showsColour
  match arguments.task with
  | .batch path =>
    if isHyphen path then return place absent (← fromInput)
    else return place (← readText (IO.FS.readBinFile path)) absent
  | .scan path _ => return place (← readText (IO.FS.readBinFile path)) absent
  | _ => return place absent absent

/-- Runs the command and prints what comes of it. -/
def execute (arguments : Arguments) : IO UInt32 := do
  let stdout ← IO.getStdout
  let stderr ← IO.getStderr
  let place ← placeFor arguments (← stdout.isTty)
  let begun ← IO.monoNanosNow
  let outcome := run place arguments ()
  let elapsed : Duration := ⟨(← IO.monoNanosNow) - begun⟩
  for note in outcome.notes do
    stderr.putStrLn note.line
  stdout.putStr (outcome.output elapsed.secondsText)
  if let some error := outcome.error then stderr.putStr error
  return outcome.exit.toUInt32

end Locution

/-- The program. -/
def main (line : List String) : IO UInt32 := do
  let around := Surroundings.mk (← IO.getEnv "OPENAI_MODEL") (← IO.getEnv "OPENAI_BASE_URL")
    (← IO.getEnv "OPENAI_API_KEY")
  match Arguments.ofList around line with
  | .ok arguments => Locution.execute arguments
  | .error error =>
    if error.isRequestForText then
      (← IO.getStdout).putStr error.message
      return 0
    else
      (← IO.getStderr).putStr error.message
      return usageExit.toUInt32
