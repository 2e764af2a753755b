import Locution.Address.Host
import Locution.Address.Path

/-!
# Addresses

An address has a scheme, perhaps a place with a host, a path, and perhaps a query and a fragment.
Reading an address gives each of them in the one form in which it is written.
-/

namespace Locution

/-- Where an address points to: who asks, on which host, and the number after the host. -/
structure Address.Place where
  user : List Char
  password : List Char
  host : Option Address.Host
  number : Option Nat

/-- An address. The path, the query and the fragment are as they are written. -/
structure Address where
  scheme : List Char
  place : Option Address.Place
  path : List Char
  query : Option (List Char)
  fragment : Option (List Char)

namespace Address

/-- The place of nobody on a host. -/
def Place.ofHost (host : Option Host) : Place :=
  ⟨[], [], host, none⟩

/-- The text of who asks. -/
def Place.userText (place : Place) : List Char :=
  if place.user.isEmpty && place.password.isEmpty then []
  else if place.password.isEmpty then place.user ++ ['@']
  else place.user ++ [':'] ++ place.password ++ ['@']

/-- The text of a place. -/
def Place.text (place : Place) : List Char :=
  place.userText ++ (place.host.map Host.text).getD [] ++
    match place.number with
    | some number => ':' :: Nat.toDigits 10 number
    | none => []

/-- The host of an address. -/
def host? (address : Address) : Option Host :=
  address.place.bind Place.host

/-- A part of an address after the sign that begins it. -/
def marked (sign : Char) : Option (List Char) → List Char
  | some text => sign :: text
  | none => []

/-- What stands between the scheme and the path. A path that begins with two slashes would be taken
for a place; a dot keeps them apart. -/
def beforePath (address : Address) : List Char :=
  match address.place with
  | some place => ['/', '/'] ++ place.text
  | none => if ['/', '/'].isPrefixOf address.path then ['/', '.'] else []

/-- The text of an address. -/
def text (address : Address) : String :=
  String.ofList (address.scheme ++ [':'] ++ address.beforePath ++ address.path ++
    marked '?' address.query ++ marked '#' address.fragment)

end Address

end Locution
