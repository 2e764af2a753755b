import Locution.Address.Basic

/-!
# Reading addresses

The fragment and the query are cut off first. What is left is read as the family of the scheme says:
a place and a path, a path alone, or a text that is not divided. Breaks are left out of each part,
for a file only after its path has been divided.
-/

namespace Locution.Address

/-- A text up to the first sign, and what follows the sign. -/
def cutAt (sign : Char) (text : List Char) : List Char × Option (List Char) :=
  (text.takeWhile (· != sign), (text.dropWhile (· != sign)).tail?)

/-- A text without one slash at its beginning. -/
def dropSlash (family : Family) (text : List Char) : List Char :=
  (afterSlash? family text).getD text

/-- A text up to the first colon that stands outside of brackets, and the rest from there on. -/
def cutHost (isInside : Bool) : List Char → List Char × List Char
  | [] => ([], [])
  | c :: rest =>
    if c = ':' ∧ !isInside then ([], c :: rest)
    else
      let (host, after) :=
        cutHost (if c = '[' then true else if c = ']' then false else isInside) rest
      (c :: host, after)

/-- A number after a host: it can be left out, and the one of the scheme is not kept. What follows
the digits can only be a bar that begins a path. -/
def number? (scheme : List Char) : List Char → Option (Option Nat × List Char)
  | ':' :: text => do
    let digits := text.takeWhile Char.isDigit
    let after := text.dropWhile Char.isDigit
    let number ← digitsValue? 10 digits
    if after.head?.any (· != '\\') ∨ 65535 < number then none
    else if digits.isEmpty ∨ hostedSchemes.lookup scheme = some number then some (none, after)
    else some (some number, after)
  | after => some (none, after)

/-- Who asks, as written before the last sign that ends it, and what follows. There is no user
without such a sign. -/
def cutUser (text : List Char) : Option (List Char) × List Char :=
  let after := (text.reverse.takeWhile (· != '@')).reverse
  if text.contains '@' then (some (text.take (text.length - after.length - 1)), after)
  else (none, after)

/-- The host of a place; a host can be left out in other families than the hosted one. -/
def host (family : Family) (text : List Char) : Option (Option Host) :=
  if family = .other then
    if text.isEmpty then some none else (Host.ofName? text).map some
  else if text.isEmpty then none
  else (Host.ofText? text).map some

/-- Reads a place, and what is left of the text. Where there is no host, there is no number and
nobody who asks. -/
def place? (family : Family) (scheme text : List Char) : Option (Place × List Char) := do
  let (userText, text) := cutUser text
  let (user, password) := cutAt ':' (userText.getD [])
  let user := percentEncoded userSigns user
  let password := percentEncoded userSigns (password.getD [])
  let (hostText, after) := cutHost false text
  let host ← host family hostText
  let (number, rest) ← number? scheme after
  let isNobody := user.isEmpty && password.isEmpty && userText != some []
  if host.isNone ∧ (!isNobody ∨ after.head? = some ':') then none
  else some (⟨user, password, host, number⟩, rest)

/-- Reads the place and the path of a scheme that a host follows. -/
def hosted? (scheme text : List Char) : Option (Place × List Char) := do
  let text := text.dropWhile (Family.isSlash .hosted)
  let (place, _) ← place? .hosted scheme (text.takeWhile (!Family.isSlash .hosted ·))
  let path := dropSlash .hosted (text.dropWhile (!Family.isSlash .hosted ·))
  some (place, (Route.ofText .hosted path).text)

/-- The host of a file; the one on which the address is used is left out. -/
def fileHost? (text : List Char) : Option (Option Host) :=
  if text.isEmpty then some none
  else (Host.ofText? text).map fun host =>
    if host = .domain "localhost".toList then none else some host

/-- A path of a file without a host. -/
def hostless (path : List Char) : Place × List Char :=
  (Place.ofHost none, filePath (Route.ofText .file path).text)

/-- Reads the host of a file, unless the letter of a drive stands there, and its path. Where there
is no host, the path begins with its slash, before which there is an empty segment. -/
def fileOnHost? (text : List Char) : Option (Place × List Char) :=
  let hostText := unbroken (text.takeWhile (!Family.isSlash .file ·))
  let path := text.dropWhile (!Family.isSlash .file ·)
  if isDrive hostText then some (hostless text)
  else do
    match ← fileHost? hostText with
    | none => some (hostless path)
    | some host =>
      let route := Route.ofText .file (dropSlash .file path)
      some (Place.ofHost (if route.keepsHost then some host else none), filePath route.text)

/-- Reads the host and the path of a file; a host stands only after two slashes. Breaks matter where
the letter of a drive stands in the path. -/
def file? (text : List Char) : Option (Place × List Char) :=
  match (afterSlash? .file text).bind (afterSlash? .file) with
  | some rest => fileOnHost? rest
  | none => some (hostless (dropSlash .file text))

/-- Reads the place and the path of another scheme. A text without slashes at its beginning is not
divided. -/
def other? (scheme text : List Char) : Option (Option Place × List Char) :=
  match text with
  | '/' :: '/' :: text => do
    let (place, after) ← place? .other scheme (text.takeWhile (· != '/'))
    let path := after ++ text.dropWhile (· != '/')
    some (some place,
      if path.isEmpty then [] else (Route.ofText .other (dropSlash .other path)).text)
  | '/' :: text => some (none, (Route.ofText .other text).text)
  | text => some (none, percentEncoded [] text)

/-- Reads an address. -/
def read? (address : String) : Option Address := do
  let (scheme, rest) ← splitScheme? (trimmed address.toList)
  let (rest, fragment) := cutAt '#' rest
  let (rest, query) := cutAt '?' rest
  let family := Family.ofScheme scheme
  let (place, path) ← match family with
    | .hosted => (hosted? scheme (unbroken rest)).map fun (place, path) => (some place, path)
    | .file => (file? rest).map fun (place, path) => (some place, path)
    | .other => other? scheme (unbroken rest)
  let signs := if family = .other then querySigns else querySigns ++ ['\'']
  some ⟨scheme, place, path, query.map (percentEncoded signs <| unbroken ·),
    fragment.map (percentEncoded fragmentSigns <| unbroken ·)⟩

end Locution.Address
