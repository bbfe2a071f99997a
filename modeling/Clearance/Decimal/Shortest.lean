/-!
# The shortest decimal of a double

A positive double is `mantissa * 2 ^ exponent`, and the reals that round to it form an interval
around it, whose ends belong to it when the mantissa is even. Of the decimals with the fewest digits
that lie in the interval, the one nearest to the double is chosen. It is found on the decimal grids
of one, two, up to seventeen digits: a grid that has a point in the interval has one of the two
neighbours of the double there. Everything is compared in whole numbers.
-/

namespace Clearance.Decimal

/-- The double `mantissa * 2 ^ exponent`. Below a power of two the doubles lie closer together
than above it, which `narrowBelow` records. -/
structure Binary where
  mantissa : Nat
  exponent : Int
  narrowBelow : Bool
  deriving DecidableEq, Repr

/-- The decimal `digits * 10 ^ exponent`. -/
structure Scaled where
  digits : Nat
  exponent : Int
  deriving DecidableEq, Repr

/-- The double behind the bits of a finite double, its sign left out. -/
def Binary.ofBits (bits : UInt64) : Binary :=
  let fraction : Nat := bits.toNat % Nat.pow 2 52
  let biased : Nat := bits.toNat / Nat.pow 2 52 % Nat.pow 2 11
  if biased = 0 then ⟨fraction, -1074, false⟩
  else ⟨Nat.pow 2 52 + fraction, (biased : Int) - 1075, fraction = 0 ∧ 1 < biased⟩

/-- The numerator that a quarter of the double's last place counts for, when the double is measured
in units of `10 ^ e`, over the denominator `Binary.denominator`. -/
def Binary.quarter (x : Binary) (e : Int) : Nat :=
  Nat.pow 2 (x.exponent - 2).toNat * Nat.pow 10 (-e).toNat

/-- The common denominator when the double is measured in units of `10 ^ e`. -/
def Binary.denominator (x : Binary) (e : Int) : Nat :=
  Nat.pow 2 (2 - x.exponent).toNat * Nat.pow 10 e.toNat

/-- Whether `point * 10 ^ e` rounds to the double. -/
def Binary.attracts (x : Binary) (e : Int) (point : Nat) : Bool :=
  let q := x.quarter e
  let low := (4 * x.mantissa - (if x.narrowBelow then 1 else 2)) * q
  let high := (4 * x.mantissa + 2) * q
  let p := point * x.denominator e
  if x.mantissa % 2 = 0 then low ≤ p && p ≤ high else low < p && p < high

/-- The point of the grid `10 ^ e` that rounds to the double and lies nearest to it, if there is
one. Of two equally near points the even one is taken. -/
def Binary.gridPoint? (x : Binary) (e : Int) : Option Nat :=
  let value := 4 * x.mantissa * x.quarter e
  let unit := x.denominator e
  let below := value / unit
  let gap := 2 * (value % unit)
  let nearer := if gap < unit then below else if unit < gap then below + 1
    else if below % 2 = 0 then below else below + 1
  let farther := if nearer = below then below + 1 else below
  if x.attracts e nearer then some nearer
  else if x.attracts e farther then some farther
  else none

/-- Whether the double is at least `10 ^ e`. -/
def Binary.reaches (x : Binary) (e : Int) : Bool :=
  x.denominator e ≤ 4 * x.mantissa * x.quarter e

/-- The power of ten that the double lies at or just above. It is estimated from the power of two,
and the estimate is off by one at most. -/
def Binary.magnitude (x : Binary) : Int :=
  let estimate := Int.fdiv (((x.mantissa.log2 : Int) + x.exponent) * 30103) 100000
  if x.reaches (estimate + 1) then estimate + 1
  else if x.reaches estimate then estimate
  else estimate - 1

/-- A decimal without zeros at its end, as far as `fuel` of them go. -/
def Scaled.reduce (d : Scaled) : Nat → Scaled
  | 0 => d
  | fuel + 1 =>
    if d.digits % 10 = 0 ∧ d.digits ≠ 0 then
      Scaled.reduce ⟨d.digits / 10, d.exponent + 1⟩ fuel
    else d

/-- The shortest decimal that rounds to the double. -/
def Binary.shortest (x : Binary) : Scaled :=
  let top := x.magnitude
  let found := (List.range 17).findSome? fun (k : Nat) =>
    (x.gridPoint? (top - k)).map fun point => Scaled.mk point (top - k)
  (found.getD ⟨0, 0⟩).reduce 20

end Clearance.Decimal
