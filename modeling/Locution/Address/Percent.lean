/-!
# Percent signs in addresses

Characters that an address cannot hold are written byte by byte, each as a percent sign and two
digits. Which characters these are depends on the part of the address. Reading puts the bytes back
and leaves a percent sign alone that no two digits follow.
-/

namespace Locution.Address

/-- The bytes of a text. -/
def bytes (text : List Char) : List UInt8 :=
  (String.ofList text).toUTF8.toList

/-- The text of bytes, if there is one. -/
def textOf? (bytes : List UInt8) : Option (List Char) :=
  (String.fromUTF8? ⟨bytes.toArray⟩).map String.toList

/-- A digit in base sixteen. -/
def hexDigit (value : Nat) : Char :=
  (Nat.digitChar value).toUpper

/-- A byte as a percent sign and two digits. -/
def percentByte (byte : UInt8) : List Char :=
  ['%', hexDigit (byte.toNat / 16), hexDigit (byte.toNat % 16)]

/-- Whether a part of an address that cannot hold the signs can hold a character. -/
def isHeld (signs : List Char) (c : Char) : Bool :=
  0x20 ≤ c.toNat && c.toNat < 0x7F && !signs.contains c

/-- A text as it is written where the signs cannot be held. -/
def percentEncoded (signs text : List Char) : List Char :=
  text.flatMap fun c => if isHeld signs c then [c] else (bytes [c]).flatMap percentByte

/-- The signs that a fragment cannot hold. -/
def fragmentSigns : List Char := " \"<>\x60".toList

/-- The signs that a query cannot hold. -/
def querySigns : List Char := " \"#<>".toList

/-- The signs that a path with segments cannot hold. -/
def pathSigns : List Char := fragmentSigns ++ "#?\x7b\x7d".toList

/-- The signs that a name and a password cannot hold. -/
def userSigns : List Char := pathSigns ++ "/:;=@[\\]^|".toList

/-- The value of a digit in base sixteen. -/
def hexValue? (c : Char) : Option Nat :=
  if c.isDigit then some (c.toNat - '0'.toNat)
  else if 'a' ≤ c ∧ c ≤ 'f' then some (c.toNat - 'a'.toNat + 10)
  else if 'A' ≤ c ∧ c ≤ 'F' then some (c.toNat - 'A'.toNat + 10)
  else none

/-- The byte that two digits stand for. -/
def byteOf? (high low : Char) : Option UInt8 := do
  let high ← hexValue? high
  let low ← hexValue? low
  some (UInt8.ofNat (high * 16 + low))

/-- The bytes that a text with percent signs stands for. -/
def percentDecoded : List Char → List UInt8
  | [] => []
  | '%' :: high :: low :: rest =>
    match byteOf? high low with
    | some byte => byte :: percentDecoded rest
    | none => bytes ['%'] ++ percentDecoded (high :: low :: rest)
  | c :: rest => bytes [c] ++ percentDecoded rest

end Locution.Address
