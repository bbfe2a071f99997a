/-!
# Percent-encoding of a name in a path

A name becomes one segment of a path: letters, digits and the signs `_ . - ~ , *` stand for
themselves, and every other byte of its UTF-8 form is written as `%` and two hexadecimal digits. So
no name can hold a slash, a question mark or a blank of its own once it is encoded.
-/

namespace Clearance.Text.Percent

/-- The bytes that stand for themselves. -/
def isPlain (b : UInt8) : Bool :=
  let c := Char.ofNat b.toNat
  b < 128 && (c.isAlphanum || "_.-~,*".toList.contains c)

/-- An upper-case hexadecimal digit. -/
def hexDigit (n : Nat) : Char :=
  if n < 10 then Char.ofNat (0x30 + n) else Char.ofNat (0x37 + n)

/-- What is written for one byte. -/
def encodeByte (b : UInt8) : List Char :=
  if isPlain b then [Char.ofNat b.toNat]
  else ['%', hexDigit (b.toNat / 16), hexDigit (b.toNat % 16)]

/-- The segment for a name. -/
def encode (name : List Char) : List Char :=
  (name.flatMap String.utf8EncodeChar).flatMap encodeByte

/-- `encode` on strings. -/
def segment (name : String) : String :=
  String.ofList (encode name.toList)

end Clearance.Text.Percent
