/-!
# Base 64

Bytes as text: three bytes make four letters, and the last group is filled up with `=`. Decoding
undoes it; letters outside the alphabet are passed over.
-/

namespace Clearance.Text.Base64

/-- The letter for a number below 64. -/
def letter (n : Nat) : Char :=
  if n < 26 then Char.ofNat (0x41 + n)
  else if n < 52 then Char.ofNat (0x61 + (n - 26))
  else if n < 62 then Char.ofNat (0x30 + (n - 52))
  else if n = 62 then '+' else '/'

/-- The number of a letter. -/
def value? (c : Char) : Option Nat :=
  let n := c.toNat
  if 0x41 ≤ n ∧ n ≤ 0x5A then some (n - 0x41)
  else if 0x61 ≤ n ∧ n ≤ 0x7A then some (n - 0x61 + 26)
  else if 0x30 ≤ n ∧ n ≤ 0x39 then some (n - 0x30 + 52)
  else if c = '+' then some 62
  else if c = '/' then some 63
  else none

/-- The letters for the bytes. -/
def encode : List UInt8 → List Char
  | a :: b :: c :: rest =>
    let n := a.toNat * 0x10000 + b.toNat * 0x100 + c.toNat
    letter (n / 0x40000) :: letter (n / 0x1000 % 64) :: letter (n / 64 % 64) :: letter (n % 64) ::
      encode rest
  | [a, b] =>
    let n := a.toNat * 0x100 + b.toNat
    [letter (n / 0x400), letter (n / 16 % 64), letter (n % 16 * 4), '=']
  | [a] => [letter (a.toNat / 4), letter (a.toNat % 4 * 16), '=', '=']
  | [] => []

/-- The bytes of a list of six-bit numbers. -/
def join : List Nat → List UInt8
  | a :: b :: c :: d :: rest =>
    let n := a * 0x40000 + b * 0x1000 + c * 64 + d
    UInt8.ofNat (n / 0x10000) :: UInt8.ofNat (n / 0x100 % 256) :: UInt8.ofNat (n % 256) :: join rest
  | [a, b, c] =>
    let n := a * 0x1000 + b * 64 + c
    [UInt8.ofNat (n / 0x400), UInt8.ofNat (n / 4 % 256)]
  | [a, b] => [UInt8.ofNat ((a * 64 + b) / 16)]
  | [_] | [] => []

/-- The bytes that the letters stand for. -/
def decode (s : List Char) : List UInt8 :=
  join (s.filterMap value?)

end Clearance.Text.Base64
