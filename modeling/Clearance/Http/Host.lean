import Clearance.Http.Loss
import Clearance.Numeral

/-!
# Hosts

How a scripted client reads the host of a URL. A host is an address of version 4 or 6 of the
Internet Protocol, or a name. Which of the three is meant shows in its form, and a host that is
meant as an address must be one. Names are the same in either case and are brought into lower case;
addresses stand as they are written.

* A version 4 address is four numbers below 256 between points, without leading zeros.
* A version 6 address stands in brackets. It is eight groups of one to four hexadecimal digits
  between colons, or fewer of them around one gap `::`. A version 4 address may stand for the last
  two groups, and a zone may follow behind `%`.
-/

namespace Clearance.Http.Host

/-! ## Version 4 -/

/-- Whether a host is meant as a version 4 address: it consists of four runs of digits between
points. -/
def looksVersion4 (s : List Char) : Bool :=
  let runs := s.splitOn '.'
  runs.length = 4 && runs.all fun run => run ≠ [] && run.all Char.isDigit

/-- Whether the text is one number of a version 4 address. -/
def isOctet (s : List Char) : Bool :=
  s ≠ [] && s.length ≤ 3 && s.all Char.isDigit && (s = ['0'] || s.head? ≠ some '0') &&
    Numeral.ofDigits s < 256

/-- Whether the text is a version 4 address. -/
def isVersion4 (s : List Char) : Bool :=
  let octets := s.splitOn '.'
  octets.length = 4 && octets.all isOctet

/-! ## Version 6 -/

/-- Whether a host is meant as a version 6 address. -/
def looksVersion6 (s : List Char) : Bool :=
  s.head? = some '[' && s.getLast? = some ']'

/-- A hexadecimal digit in either case. -/
def isHexDigit (c : Char) : Bool :=
  c.isDigit || ('a' ≤ c && c ≤ 'f') || ('A' ≤ c && c ≤ 'F')

/-- Whether the text is a group of a version 6 address. -/
def isGroup (s : List Char) : Bool :=
  s ≠ [] && s.length ≤ 4 && s.all isHexDigit

/-- How many groups the text is a list of. A version 4 address counts for two where `dotted` allows
it to be the last. -/
def groupCount (dotted : Bool) (s : List Char) : Option Nat :=
  let groups := if s = [] then [] else s.splitOn ':'
  if groups.all isGroup then some groups.length
  else if dotted && groups.dropLast.all isGroup && groups.getLast?.any isVersion4 then
    some (groups.length + 1)
  else none

/-- What stands before and behind the first gap. -/
def splitGap : List Char → Option (List Char × List Char)
  | [] => none
  | c :: rest =>
    if c = ':' ∧ rest.head? = some ':' then some ([], rest.drop 1)
    else (splitGap rest).map fun (before, after) => (c :: before, after)

/-- Whether the text is a version 6 address without a zone. A gap stands for at least one group. -/
def isUnzoned (s : List Char) : Bool :=
  match splitGap s with
  | none => groupCount true s = some 8
  | some (before, after) =>
    match groupCount false before, groupCount true after with
    | some m, some n => m + n < 8
    | _, _ => false

/-- Whether the text is a version 6 address. -/
def isVersion6 (s : List Char) : Bool :=
  isUnzoned (s.takeWhile (· != '%')) && match s.dropWhile (· != '%') with
    | [] => true
    | _ :: zone => zone ≠ [] && !zone.contains '%'

/-! ## Any host -/

/-- The host as it is asked for. -/
def read (s : List Char) : Except Loss (List Char) :=
  if looksVersion4 s then
    if isVersion4 s then .ok s else .error (.invalidVersion4 (String.ofList s))
  else if looksVersion6 s then
    if isVersion6 (s.drop 1).dropLast then .ok s else .error (.invalidVersion6 (String.ofList s))
  else .ok (s.map Char.toLower)

end Clearance.Http.Host
