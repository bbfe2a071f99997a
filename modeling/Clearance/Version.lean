import Clearance.Fault
import Clearance.Numeral
import Clearance.Text.Blank
import Clearance.Text.Digit

/-!
# Versions of the cluster

Of the version of a cluster only the major number counts. It is read from the front of a text:
blanks, perhaps a `v`, and digits that a point or the end of the text follows. One line end may
stand at the end of the text.
-/

namespace Clearance

open Text (isDecimal trimStart)

/-- The version of a cluster. -/
structure Version where
  major : Int
  deriving DecidableEq, Repr

namespace Version

/-- A text without a `v` at its front. -/
def dropMark : List Char → List Char
  | 'v' :: r => r
  | 'V' :: r => r
  | s => s

/-- Whether the digits of the major number may end before this text. -/
def endsMajor : List Char → Bool
  | [] => true
  | ['\n'] => true
  | c :: _ => c == '.'

/-- The version that a text starts with. -/
def read (text : String) : Except ValueFault Version :=
  let body := dropMark (trimStart text.toList)
  let digits := body.takeWhile isDecimal
  if digits ≠ [] ∧ endsMajor (body.dropWhile isDecimal) then
    match Numeral.readDigits digits with
    | .ok major => .ok ⟨major⟩
    | .error flaw => .error (.numeral flaw)
  else .error (.version text)

/-- The version as it is recorded. That the major number can be shown is certain only of a version
that was read, which has no more digits than a number may be written with. -/
def render (v : Version) : String :=
  toString v.major ++ ".x"

/-- Whether the first version is the older one. -/
def isOlder (v w : Version) : Bool :=
  v.major < w.major

/-- Versions from the oldest to the newest. -/
def sort (versions : List Version) : List Version :=
  versions.mergeSort fun v w => v.major ≤ w.major

end Version

end Clearance
