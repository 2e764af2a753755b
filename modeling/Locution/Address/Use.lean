import Locution.Address.Basic

/-!
# Using addresses

Who asks is told apart from the address before it is used, if the name can be read. Questions can be
posted to the addresses of the web, unless the host holds a sign that no message can hold, or the
address is too long for one.
-/

namespace Locution.Address

/-- Whether the name and the password of a place can be told apart from it: the name must be
readable, and one of them must be there. -/
def Place.tellsUser (place : Place) : Bool :=
  match textOf? (percentDecoded place.user) with
  | none => false
  | some user =>
    !user.isEmpty || !place.password.isEmpty && (textOf? (percentDecoded place.password)).isSome

/-- An address without the name and the password in it, if they can be told apart. -/
def withoutUser (address : Address) : Address :=
  { address with
    place := address.place.map fun place =>
      if place.tellsUser then { place with user := [], password := [] } else place }

/-- Whether a message can hold a character in the name of a host. -/
def isMessageChar (c : Char) : Bool :=
  c.isAlphanum || "!$&'()*+,-.:;=[]_~".toList.contains c

/-- How many bytes the address of a message can have. -/
def longestInMessage : Nat := 65534

/-- Whether questions can be posted to an address. -/
def isPostable (address : Address) : Bool :=
  webSchemes.contains address.scheme &&
    (address.host?.map Host.text).any (List.all · isMessageChar) &&
    address.text.utf8ByteSize ≤ longestInMessage

end Locution.Address
