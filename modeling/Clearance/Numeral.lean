import Clearance.Text.Blank
import Clearance.Text.Digit
import Clearance.Text.Quoted

/-!
# Whole numbers in texts

A whole number may be written in the digits of any script, with blanks around it, one sign, and
single underscores between digits. A number of more than 4300 digits is refused, however small its
value: leading zeros count, underscores and the sign do not.
-/

namespace Clearance.Numeral

open Text (decimal? isDecimal isBlank quote)

/-- The most digits that a number may be written with. -/
def maxDigits : Nat := 4300

/-- Why no number can be read. -/
inductive Flaw where
  /-- The text is no number. -/
  | malformed (text : String)
  /-- The number has this many digits, which are too many. -/
  | tooLong (digits : Nat)
  deriving DecidableEq, Repr

/-- The flaw as it is told; of a long text the first 200 characters of its quotation are shown. -/
def Flaw.message : Flaw → String
  | malformed text =>
    "invalid literal for int() with base 10: " ++ String.ofList ((quote text).toList.take 200)
  | tooLong digits =>
    s!"Exceeds the limit ({maxDigits} digits) for integer string conversion: value has " ++
      s!"{digits} digits; use sys.set_int_max_str_digits() to increase the limit"

/-- The value of a run of decimal digits. -/
def ofDigits (s : List Char) : Nat :=
  s.foldl (fun n c => 10 * n + (decimal? c).getD 0) 0

/-- The blanks that may surround a number: all but the four separators U+001C to U+001F. -/
def isPad (c : Char) : Bool :=
  isBlank c && !(0x1C ≤ c.toNat && c.toNat ≤ 0x1F)

/-- Splits a sign off; the answer tells whether it was a minus. -/
def splitSign : List Char → Bool × List Char
  | '-' :: r => (true, r)
  | '+' :: r => (false, r)
  | s => (false, s)

/-- Whether every underscore of the run stands between two digits, and there is a digit. -/
def wellGrouped (run : List Char) : Bool :=
  (run.splitOn '_').all (· ≠ [])

/-- Reads a whole number that fills the text. A number that is too long is reported before
anything that follows it. -/
def readInt (text : List Char) : Except Flaw Int :=
  let (negative, body) := splitSign (text.dropWhile isPad)
  let run := body.takeWhile fun c => isDecimal c || c == '_'
  let rest := body.dropWhile fun c => isDecimal c || c == '_'
  let digits := run.filter isDecimal
  if !wellGrouped run then .error (.malformed (String.ofList text))
  else if maxDigits < digits.length then .error (.tooLong digits.length)
  else if rest.all isPad then
    .ok (if negative then -(ofDigits digits : Int) else ofDigits digits)
  else .error (.malformed (String.ofList text))

/-- Reads a number from a text of decimal digits alone. -/
def readDigits (digits : List Char) : Except Flaw Nat :=
  if digits.length ≤ maxDigits then .ok (ofDigits digits) else .error (.tooLong digits.length)

end Clearance.Numeral
