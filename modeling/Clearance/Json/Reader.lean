import Clearance.Decimal.Nearest
import Clearance.Json.Value
import Clearance.Numeral

/-!
# Reading documents

Reads a JSON document. Beside the standard's grammar the names `NaN`, `Infinity` and `-Infinity`
are numbers. A number without fraction and exponent is a whole number, and is refused when it has
too many digits. A text may hold half of a surrogate pair; two escapes that make up a pair become
the one character that they stand for. Text after the document is an error, as are blanks other
than space, tab and the two line ends. Values may be nested to any depth: there is no stack here
that a deep document could exhaust.
-/

namespace Clearance.Json.Reader

open Clearance.Text (Glyph)

/-- The blanks of a document. -/
def isSpace (g : Glyph) : Bool :=
  g = .char ' ' || g = .char '\t' || g = .char '\n' || g = .char '\x0d'

/-- A document without the blanks at its front. -/
def skip (s : List Glyph) : List Glyph :=
  s.dropWhile isSpace

/-- What follows the given characters, if the text starts with them. -/
def after? : List Char → List Glyph → Option (List Glyph)
  | [], s => some s
  | c :: cs, .char d :: s => if c = d then after? cs s else none
  | _ :: _, _ => none

/-! ## Numbers -/

/-- The value of a digit of the common script. -/
def digit? : Glyph → Option Nat
  | .char c => if '0' ≤ c ∧ c ≤ '9' then some (c.toNat - 0x30) else none
  | .lone _ => none

/-- A run of digits, as numbers, and what follows it. -/
def digits (s : List Glyph) : List Nat × List Glyph :=
  ((s.takeWhile fun g => (digit? g).isSome).filterMap digit?,
    s.dropWhile fun g => (digit? g).isSome)

/-- The number that digits stand for. -/
def number (ds : List Nat) : Nat :=
  ds.foldl (fun n d => 10 * n + d) 0

/-- The digits before the point: a single zero, or a run that does not start with one. -/
def whole? (s : List Glyph) : Option (List Nat × List Glyph) :=
  match digits s with
  | ([], _) => none
  | (0 :: _, _) => some ([0], s.drop 1)
  | found => some found

/-- The digits after the point; without a digit there, the point does not belong to the number. -/
def fraction (s : List Glyph) : Option (List Nat) × List Glyph :=
  match s with
  | .char '.' :: r =>
    match digits r with
    | ([], _) => (none, s)
    | (ds, rest) => (some ds, rest)
  | _ => (none, s)

/-- The exponent; without a digit in it, its letter does not belong to the number. -/
def exponent (s : List Glyph) : Option Int × List Glyph :=
  match s with
  | .char e :: r =>
    if e = 'e' ∨ e = 'E' then
      let (negative, body) := match r with
        | .char '-' :: t => (true, t)
        | .char '+' :: t => (false, t)
        | t => (false, t)
      match digits body with
      | ([], _) => (none, s)
      | (ds, rest) => (some (if negative then -(number ds : Int) else number ds), rest)
    else (none, s)
  | _ => (none, s)

/-- A number, after its minus sign if it has one. -/
def unsigned? (negative : Bool) (s : List Glyph) : Option (Value × List Glyph) :=
  match whole? s with
  | none => none
  | some (ds, r) =>
    let (places, r) := fraction r
    let (power, r) := exponent r
    if places.isNone ∧ power.isNone then
      if Numeral.maxDigits < ds.length then none
      else some (.int (if negative then -(number ds : Int) else number ds), r)
    else
      let places := places.getD []
      let size := Decimal.nearest (number (ds ++ places)) (power.getD 0 - places.length)
      some (.float (if negative then -size else size), r)

/-! ## Texts -/

/-- The value of a hexadecimal digit. -/
def hex? : Glyph → Option Nat
  | .char c =>
    if '0' ≤ c ∧ c ≤ '9' then some (c.toNat - 0x30)
    else if 'a' ≤ c ∧ c ≤ 'f' then some (c.toNat - 0x57)
    else if 'A' ≤ c ∧ c ≤ 'F' then some (c.toNat - 0x37)
    else none
  | .lone _ => none

/-- The number that four hexadecimal digits stand for. -/
def unit? (a b c d : Glyph) : Option Nat :=
  match hex? a, hex? b, hex? c, hex? d with
  | some a, some b, some c, some d => some (a * 0x1000 + b * 0x100 + c * 0x10 + d)
  | _, _, _, _ => none

/-- The character that a letter stands for after a backslash. -/
def named? (c : Char) : Option Char :=
  if c = '"' ∨ c = '\\' ∨ c = '/' then some c
  else if c = 'b' then some '\x08'
  else if c = 'f' then some '\x0c'
  else if c = 'n' then some '\n'
  else if c = 'r' then some '\x0d'
  else if c = 't' then some '\t'
  else none

/-- Whether the number is the first, or the second, half of a surrogate pair. -/
def isHigh (n : Nat) : Bool := 0xD800 ≤ n && n < 0xDC00

@[inherit_doc isHigh]
def isLow (n : Nat) : Bool := 0xDC00 ≤ n && n < 0xE000

/-- Joins two halves that were escaped one after the other. A half in plain text, or one that
another glyph follows, stays as it is. -/
def text? : List Glyph → Option (List Glyph × List Glyph)
  | [] => none
  | .char '"' :: rest => some ([], rest)
  | .char '\\' :: .char 'u' :: a :: b :: c :: d :: rest =>
    match unit? a b c d with
    | none => none
    | some n =>
      let single := (Glyph.ofNat? n).bind fun g => (text? rest).map fun (t, r) => (g :: t, r)
      match rest with
      | .char '\\' :: .char 'u' :: a' :: b' :: c' :: d' :: rest' =>
        match unit? a' b' c' d' with
        | none => none
        | some m =>
          if isHigh n && isLow m then
            (Glyph.ofNat? (0x10000 + (n - 0xD800) * 0x400 + (m - 0xDC00))).bind fun g =>
              (text? rest').map fun (t, r) => (g :: t, r)
          else single
      | _ => single
  | .char '\\' :: .char c :: rest =>
    (named? c).bind fun e => (text? rest).map fun (t, r) => (.char e :: t, r)
  | .char '\\' :: _ => none
  | g :: rest =>
    if g.toChar.toNat < 0x20 then none
    else (text? rest).map fun (t, r) => (g :: t, r)

/-! ## Values -/

/-- The values with a spelling of their own. -/
def literals : List (String × Value) :=
  [("null", .null), ("true", .bool true), ("false", .bool false), ("NaN", .float (0.0 / 0.0)),
    ("Infinity", .float (1.0 / 0.0)), ("-Infinity", .float (-1.0 / 0.0))]

/-- A value with a spelling of its own, at the front of the text. -/
def literal? (s : List Glyph) : Option (Value × List Glyph) :=
  literals.findSome? fun (name, v) => (after? name.toList s).map fun r => (v, r)

mutual

/-- A value at the front of the text. Every nested value costs one unit of fuel. -/
def value? : Nat → List Glyph → Option (Value × List Glyph)
  | 0, _ => none
  | fuel + 1, s =>
    match s with
    | .char '"' :: r => (text? r).map fun (t, r) => (.string t, r)
    | .char '[' :: r =>
      match skip r with
      | .char ']' :: r => some (.array [], r)
      | r => (items? fuel r).map fun (vs, r) => (.array vs, r)
    | .char '\x7b' :: r =>
      match skip r with
      | .char '\x7d' :: r => some (.object [], r)
      | r => (members? fuel [] r).map fun (ms, r) => (.object ms, r)
    | s =>
      match literal? s with
      | some found => some found
      | none =>
        match s with
        | .char '-' :: r => unsigned? true r
        | s => unsigned? false s

/-- The items of an array, from the front of one to behind the closing bracket. -/
def items? : Nat → List Glyph → Option (List Value × List Glyph)
  | 0, _ => none
  | fuel + 1, s =>
    match value? fuel s with
    | none => none
    | some (v, r) =>
      match skip r with
      | .char ',' :: r => (items? fuel (skip r)).map fun (vs, r) => (v :: vs, r)
      | .char ']' :: r => some ([v], r)
      | _ => none

/-- The members of an object, from the front of one to behind the closing brace, put in after those
already read. -/
def members? : Nat → Members → List Glyph → Option (Members × List Glyph)
  | 0, _, _ => none
  | fuel + 1, known, s =>
    match s with
    | .char '"' :: r =>
      match text? r with
      | none => none
      | some (key, r) =>
        match skip r with
        | .char ':' :: r =>
          match value? fuel (skip r) with
          | none => none
          | some (v, r) =>
            let known := Members.insert key v known
            match skip r with
            | .char ',' :: r => members? fuel known (skip r)
            | .char '\x7d' :: r => some (known, r)
            | _ => none
        | _ => none
    | _ => none

end

end Clearance.Json.Reader

namespace Clearance.Json

open Clearance.Text (Glyph)

/-- Reads a text that holds one document and nothing else. Every value takes up a glyph at least,
and a list of values one more for each, so that twice the length of the text is fuel enough. -/
def read (s : List Glyph) : Option Value :=
  match Reader.value? (2 * s.length + 2) (Reader.skip s) with
  | some (v, rest) => if (Reader.skip rest).isEmpty then some v else none
  | none => none

end Clearance.Json
