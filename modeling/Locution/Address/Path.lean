import Locution.Address.Percent
import Locution.Address.Scheme
import Locution.Text.Cut

/-!
# Paths

A path is a series of segments with slashes between them. A segment of one dot stays where it is,
one of two dots goes back by one segment, where a dot can be written with a percent sign too. The
letter of a drive, a letter with a colon or a bar, is never gone back over. As the first segment of
the address of a file it is written with a colon, and there is no host.
-/

namespace Locution.Address

/-- Whether a segment is one dot. -/
def isDot (segment : List Char) : Bool :=
  [".", "%2e"].contains (String.ofList (segment.map Char.toLower))

/-- Whether a segment is two dots. -/
def isDoubleDot (segment : List Char) : Bool :=
  ["..", "%2e.", ".%2e", "%2e%2e"].contains (String.ofList (segment.map Char.toLower))

/-- Whether a text is the letter of a drive. -/
def isDrive : List Char → Bool
  | [letter, sign] => letter.isAlpha && (sign == ':' || sign == '|')
  | _ => false

/-- Segments, the last one first, without the last one, unless the letter of a drive stands in it,
alone or before a backslash. -/
def upward : List (List Char) → List (List Char)
  | [] => []
  | last :: before => if isDrive (last.takeWhile (· != '\\')) then last :: before else before

/-- The letter of a drive with a colon before a break, and what the segment goes on with after
it. -/
def afterDrive? (segment : List Char) : Option (List Char × List Char) :=
  match segment.dropWhile isBreak with
  | letter :: rest =>
    match rest.dropWhile isBreak with
    | ':' :: c :: rest =>
      if letter.isAlpha && isBreak c && !(unbroken rest).isEmpty then
        some ([letter, ':'], unbroken rest)
      else none
    | _ => none
  | [] => none

/-- A path that has been read up to a segment: the segments before, the last one first; the segment
itself, unless dots stand for it; and whether the address keeps its host. -/
structure Route where
  behind : List (List Char)
  here : Option (List Char)
  keepsHost : Bool

namespace Route

/-- The path before its first segment. -/
def start : Route :=
  ⟨[], none, true⟩

/-- Goes past the slash after the segment. -/
def pass (route : Route) : Route :=
  { route with behind := route.here.toList ++ route.behind, here := none }

/-- Goes on to a segment that is neither dots nor special in the address of a file. -/
def arrive (route : Route) (segment : List Char) : Route :=
  { route with here := some (percentEncoded pathSigns segment) }

/-- Goes on to the first segment of the path of a file. A letter of a drive before a break is a
segment of its own. -/
def enterFirst (route : Route) (segment : List Char) : Route :=
  if isDrive (unbroken segment) then
    ⟨[], some ((unbroken segment).take 1 ++ [':']), false⟩
  else
    match afterDrive? segment with
    | some (drive, rest) => { route with behind := [drive] }.arrive rest
    | none => route.arrive (unbroken segment)

/-- Goes on to a segment. -/
def enter (family : Family) (route : Route) (segment : List Char) : Route :=
  if isDoubleDot (unbroken segment) then { route with behind := upward route.behind, here := none }
  else if isDot (unbroken segment) then { route with here := none }
  else if family = .file && route.behind.isEmpty then route.enterFirst segment
  else route.arrive (unbroken segment)

/-- The route that a text gives after the first slash of a path. -/
def ofText (family : Family) (text : List Char) : Route :=
  (Text.cut family.isSlash text).foldl (fun route => route.pass.enter family) start

/-- The text of a path. -/
def text (route : Route) : List Char :=
  '/' :: route.behind.reverse.flatMap (· ++ ['/']) ++ route.here.getD []

end Route

/-- The path of a file: there is one slash at its beginning. -/
def filePath (path : List Char) : List Char :=
  '/' :: path.dropWhile (· == '/')

end Locution.Address
