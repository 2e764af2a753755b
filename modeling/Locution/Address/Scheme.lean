import Locution.Address.Break

/-!
# Schemes

An address begins with a scheme and a colon. The scheme decides how the rest is read: the schemes
of the web and their relatives are followed by a host however many slashes there are, files have a
host that may be missing, and elsewhere a host stands only after two slashes.
-/

namespace Locution.Address

/-- How the rest of an address is read. -/
inductive Family where
  | hosted
  /-- A file, perhaps on a host. -/
  | file
  /-- A host follows two slashes. -/
  | other
  deriving DecidableEq

/-- The schemes of the web. -/
def webSchemes : List (List Char) := ["http".toList, "https".toList]

/-- The schemes that a host follows, each with the number that is meant when none stands after the
host. -/
def hostedSchemes : List (List Char × Nat) :=
  [("http".toList, 80), ("https".toList, 443), ("ws".toList, 80), ("wss".toList, 443),
    ("ftp".toList, 21)]

/-- The family of a scheme. -/
def Family.ofScheme (scheme : List Char) : Family :=
  if scheme = "file".toList then .file
  else if (hostedSchemes.lookup scheme).isSome then .hosted
  else .other

namespace Family

/-- Whether a character divides the segments of a path. -/
def isSlash (family : Family) (c : Char) : Bool :=
  c == '/' || family ≠ .other && c == '\\'

end Family

/-- Whether a character may stand in a scheme after the first one. -/
def isSchemeChar (c : Char) : Bool :=
  c.isAlphanum || c == '+' || c == '-' || c == '.'

/-- The scheme of an address in lowercase, and what follows its colon. -/
def splitScheme? (address : List Char) : Option (List Char × List Char) :=
  match unbroken (address.takeWhile (· != ':')), address.dropWhile (· != ':') with
  | c :: scheme, _ :: rest =>
    if c.isAlpha && scheme.all isSchemeChar then some ((c :: scheme).map Char.toLower, rest)
    else none
  | _, _ => none

/-- What follows a slash at the beginning of a text. -/
def afterSlash? (family : Family) (text : List Char) : Option (List Char) :=
  match text.dropWhile isBreak with
  | c :: rest => if family.isSlash c then some rest else none
  | [] => none

end Locution.Address
