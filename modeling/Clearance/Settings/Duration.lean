import Clearance.Decimal.Nearest
import Clearance.Fault
import Clearance.Numeral
import Clearance.Text.Blank

/-!
# Durations

A duration is a decimal number, perhaps with a fraction, and perhaps a unit after it; without a unit
it counts seconds. Blanks may stand at either end and before the unit, the digits may be those of
any script, and the units are written in lower case. The double nearest to the number is multiplied
by the length of the unit in seconds.
-/

namespace Clearance.Settings

open Text (isDecimal trim trimStart)

/-- The units of a duration. -/
inductive TimeUnit where
  | milliseconds
  | seconds
  | minutes
  | hours
  deriving DecidableEq, Repr

namespace TimeUnit

/-- How the unit is written. -/
def symbol : TimeUnit → List Char
  | milliseconds => ['m', 's']
  | seconds => ['s']
  | minutes => ['m']
  | hours => ['h']

/-- The length of the unit in seconds. -/
def length : TimeUnit → Float
  | milliseconds => 0.001
  | seconds => 1.0
  | minutes => 60.0
  | hours => 3600.0

/-- The unit with this symbol. -/
def ofSymbol? (s : List Char) : Option TimeUnit :=
  [milliseconds, seconds, minutes, hours].find? (·.symbol == s)

theorem ofSymbol?_symbol (u : TimeUnit) : ofSymbol? u.symbol = some u := by
  cases u <;> decide

end TimeUnit

/-- A duration as it is written: the digits before and after the point, and the unit if one is
given. Without a point there are no digits after it. -/
structure Duration where
  whole : List Char
  fraction : List Char
  unit : Option TimeUnit
  deriving DecidableEq, Repr

namespace Duration

/-- The digits after a point at the front, and what follows them. A point without a digit after it
is no part of a duration, and neither is anything that follows. -/
def splitFraction : List Char → Option (List Char × List Char)
  | '.' :: r =>
    if r.takeWhile isDecimal = [] then none
    else some (r.takeWhile isDecimal, r.dropWhile isDecimal)
  | r => some ([], r)

/-- The unit that a text consists of, blanks aside; a blank text gives none. -/
def splitUnit (s : List Char) : Option (Option TimeUnit) :=
  if trim s = [] then some none else (TimeUnit.ofSymbol? (trim s)).map some

/-- The duration that fills the text. -/
def parse? (s : List Char) : Option Duration :=
  let body := trimStart s
  let whole := body.takeWhile isDecimal
  if whole = [] then none
  else (splitFraction (body.dropWhile isDecimal)).bind fun (fraction, rest) =>
    (splitUnit rest).map fun unit => ⟨whole, fraction, unit⟩

/-- The number of units. -/
def amount (d : Duration) : Float :=
  Decimal.nearest (Numeral.ofDigits (d.whole ++ d.fraction)) (-(d.fraction.length : Int))

/-- The duration in seconds. -/
def toSeconds (d : Duration) : Float :=
  d.amount * (d.unit.getD .seconds).length

/-- Reads the duration that the text of a setting holds, in seconds. -/
def read (setting text : String) : Except Fault Float :=
  match parse? text.toList with
  | some d => .ok d.toSeconds
  | none => .error (.configuration (.text (.duration setting text)))

end Duration

end Clearance.Settings
