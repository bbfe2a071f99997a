import Clearance.Decimal.Shortest

/-!
# Doubles as they are shown

A double is shown by its shortest decimal. It is written positionally while the power of its first
digit lies from -4 to 15, with at least one digit after the point, and otherwise with a signed
exponent of at least two digits. Zero keeps its sign.
-/

namespace Clearance.Decimal

/-- The decisions of a way to show doubles. -/
structure NumberStyle where
  /-- The least power of the first digit that is written positionally. -/
  least : Int
  /-- The least power of the first digit that is too large for that. -/
  limit : Int
  /-- The digits that an exponent has at least. -/
  exponentWidth : Nat
  infinity : String
  notANumber : String
  deriving DecidableEq, Repr

/-- How doubles are shown in messages. -/
def messageStyle : NumberStyle := ⟨-4, 16, 2, "inf", "nan"⟩

/-- How doubles are written in a document. -/
def documentStyle : NumberStyle := { messageStyle with infinity := "Infinity", notANumber := "NaN" }

/-- A positive decimal in the given style. -/
def Scaled.shown (style : NumberStyle) (d : Scaled) : List Char :=
  let digits := Nat.toDigits 10 d.digits
  let power := d.exponent + digits.length - 1
  if power < style.least ∨ style.limit ≤ power then
    let size := Nat.toDigits 10 power.natAbs
    let mantissa := match digits with
      | [only] => [only]
      | first :: rest => first :: '.' :: rest
      | [] => []
    mantissa ++ ['e', if power < 0 then '-' else '+'] ++
      List.replicate (style.exponentWidth - size.length) '0' ++ size
  else if power < 0 then
    '0' :: '.' :: List.replicate (power.natAbs - 1) '0' ++ digits
  else
    let whole := digits.take (power.toNat + 1)
    let padding := List.replicate (power.toNat + 1 - digits.length) '0'
    let fraction := digits.drop (power.toNat + 1)
    whole ++ padding ++ '.' :: (if fraction = [] then ['0'] else fraction)

/-- A double in the given style. -/
def shown (style : NumberStyle) (x : Float) : String :=
  let bits := x.toBits
  let sign := if bits.toNat < Nat.pow 2 63 then "" else "-"
  let biased : Nat := bits.toNat / Nat.pow 2 52 % Nat.pow 2 11
  if biased = 2047 then
    if bits.toNat % Nat.pow 2 52 = 0 then sign ++ style.infinity else style.notANumber
  else if bits.toNat % Nat.pow 2 63 = 0 then sign ++ "0.0"
  else sign ++ String.ofList ((Binary.ofBits bits).shortest.shown style)

/-- The sixteen hexadecimal digits of the bits of a double. -/
def bitsText (x : Float) : String :=
  let digits := Nat.toDigits 16 x.toBits.toNat
  String.ofList (List.replicate (16 - digits.length) '0' ++ digits)

end Clearance.Decimal
