/-!
# The double nearest to a decimal

The doubles that are not negative have the bits from 0 on, in their order, up to the bits of
infinity. A decimal is read as the double nearest to it, and of two that are equally near as the one
whose bits are even. Everything is compared in whole numbers, in units of the smallest double.
Exponents far outside the range of doubles are answered at once:
beyond it a decimal is infinite, below it it is zero.
-/

namespace Clearance.Decimal

/-- The bits of infinity. -/
def infinityBits : Nat :=
  0x7ff0000000000000

/-- The smallest double is `2 ^ (-places)`. -/
@[irreducible]
def places : Nat :=
  1074

/-- The bits of the double nearest to a fraction. -/
def nearestBits (numerator denominator : Nat) : Nat :=
  let units := numerator * Nat.pow 2 places
  -- A double has 53 places, and so many others are rounded off.
  let shift := (units / denominator).log2 - 52
  let place := denominator * Nat.pow 2 shift
  let below := units / place
  let gap := 2 * (units % place)
  let nearer := if gap < place ∨ gap = place ∧ below % 2 = 0 then below else below + 1
  min (shift * Nat.pow 2 52 + nearer) infinityBits

/-- The bits of the double nearest to `digits * 10 ^ exponent`. -/
def decimalBits (digits : Nat) (exponent : Int) : Nat :=
  if digits = 0 ∨ (digits.log2 : Int) + 400 < -exponent then 0
  else if 400 < exponent then infinityBits
  else nearestBits (digits * Nat.pow 10 exponent.toNat) (Nat.pow 10 (-exponent).toNat)

/-- The double nearest to `digits * 10 ^ exponent`. -/
def nearest (digits : Nat) (exponent : Int) : Float :=
  Float.ofBits (UInt64.ofNat (decimalBits digits exponent))

end Clearance.Decimal
