import Clearance.Json.Reader

/-!
# Documents in bytes

A document may come in UTF-8, UTF-16 or UTF-32. A byte order mark at the front tells which; without
one, the zero bytes among the first four do, since a document starts with two characters of the
first 128. Each of the three encodings is read strictly, except that half of a surrogate pair is
taken as it stands.
-/

namespace Clearance.Json

open Clearance.Text (Glyph)

/-- How the bytes of a document are read. -/
inductive Encoding where
  | utf8
  | utf16 (bigEndian : Bool)
  | utf32 (bigEndian : Bool)
  deriving DecidableEq, Repr

namespace Encoding

/-- Whether the byte continues a character of UTF-8. -/
def isTail (b : Nat) : Bool := 0x80 ≤ b && b < 0xC0

/-- The glyphs of bytes in UTF-8. -/
def decodeUtf8 : List UInt8 → Option (List Glyph)
  | [] => some []
  | a :: rest =>
    let a := a.toNat
    if a < 0x80 then (Glyph.ofNat? a).bind fun g => (decodeUtf8 rest).map (g :: ·)
    else match rest with
    | [] => none
    | b :: rest =>
      let b := b.toNat
      if !isTail b || a < 0xC2 || 0xF4 < a then none
      else if a < 0xE0 then
        (Glyph.ofNat? ((a - 0xC0) * 0x40 + (b - 0x80))).bind fun g =>
          (decodeUtf8 rest).map (g :: ·)
      else match rest with
      | [] => none
      | c :: rest =>
        let c := c.toNat
        if !isTail c then none
        else if a < 0xF0 then
          if a = 0xE0 ∧ b < 0xA0 then none
          else (Glyph.ofNat? ((a - 0xE0) * 0x1000 + (b - 0x80) * 0x40 + (c - 0x80))).bind fun g =>
            (decodeUtf8 rest).map (g :: ·)
        else match rest with
        | [] => none
        | d :: rest =>
          let d := d.toNat
          if !isTail d || (a = 0xF0 && b < 0x90) then none
          else (Glyph.ofNat? ((a - 0xF0) * 0x40000 + (b - 0x80) * 0x1000 + (c - 0x80) * 0x40 +
            (d - 0x80))).bind fun g => (decodeUtf8 rest).map (g :: ·)

/-- The two-byte numbers of a list of bytes. -/
def units16 (bigEndian : Bool) : List UInt8 → Option (List Nat)
  | [] => some []
  | [_] => none
  | a :: b :: rest =>
    (units16 bigEndian rest).map
      ((if bigEndian then a.toNat * 0x100 + b.toNat else b.toNat * 0x100 + a.toNat) :: ·)

/-- The four-byte numbers of a list of bytes. -/
def units32 (bigEndian : Bool) : List UInt8 → Option (List Nat)
  | [] => some []
  | a :: b :: c :: d :: rest =>
    let number (a b c d : UInt8) : Nat :=
      a.toNat * 0x1000000 + b.toNat * 0x10000 + c.toNat * 0x100 + d.toNat
    (units32 bigEndian rest).map ((if bigEndian then number a b c d else number d c b a) :: ·)
  | _ => none

/-- The glyphs of numbers in UTF-16, pairs of surrogates joined. -/
def joinPairs : List Nat → Option (List Glyph)
  | [] => some []
  | [n] => (Glyph.ofNat? n).map ([·])
  | n :: m :: rest =>
    if Reader.isHigh n && Reader.isLow m then
      (Glyph.ofNat? (0x10000 + (n - 0xD800) * 0x400 + (m - 0xDC00))).bind fun g =>
        (joinPairs rest).map (g :: ·)
    else (Glyph.ofNat? n).bind fun g => (joinPairs (m :: rest)).map (g :: ·)

/-- The glyphs of bytes in an encoding. -/
def decode (bytes : List UInt8) : Encoding → Option (List Glyph)
  | utf8 => decodeUtf8 bytes
  | utf16 bigEndian => (units16 bigEndian bytes).bind joinPairs
  | utf32 bigEndian => (units32 bigEndian bytes).bind fun units => units.mapM Glyph.ofNat?

/-- The encoding of a document without a byte order mark. -/
def byZeros : List UInt8 → Encoding
  | a :: b :: c :: d :: _ =>
    if a = 0 then (if b = 0 then utf32 true else utf16 true)
    else if b = 0 then (if c = 0 ∧ d = 0 then utf32 false else utf16 false)
    else utf8
  | [a, b] => if a = 0 then utf16 true else if b = 0 then utf16 false else utf8
  | _ => utf8

/-- The encoding of a document, and its bytes without the byte order mark. -/
def detect : List UInt8 → Encoding × List UInt8
  | 0x00 :: 0x00 :: 0xFE :: 0xFF :: rest => (utf32 true, rest)
  | 0xFF :: 0xFE :: 0x00 :: 0x00 :: rest => (utf32 false, rest)
  | 0xFE :: 0xFF :: rest => (utf16 true, rest)
  | 0xFF :: 0xFE :: rest => (utf16 false, rest)
  | 0xEF :: 0xBB :: 0xBF :: rest => (utf8, rest)
  | bytes => (byZeros bytes, bytes)

end Encoding

/-- Reads the document that the bytes hold. -/
def readBytes (bytes : List UInt8) : Option Value :=
  let (encoding, rest) := Encoding.detect bytes
  (encoding.decode rest).bind read

end Clearance.Json
