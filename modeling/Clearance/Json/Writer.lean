import Clearance.Decimal.Shown
import Clearance.Json.Value
import Clearance.Text.Quoted

/-!
# Writing documents

A value as a document on one line. Quotation marks, backslashes and controls are escaped, and so is
half of a surrogate pair; every other character stands for itself.
-/

namespace Clearance.Json

open Clearance.Text (Glyph)

/-- A number as an escape of four hexadecimal digits. -/
def Writer.escape (n : Nat) : List Char :=
  '\\' :: 'u' :: Text.Quoted.hex 4 n

/-- What is written for one glyph of a text. -/
def Writer.glyph : Glyph → List Char
  | .lone half => escape (0xD800 + half)
  | .char c =>
    if c = '"' ∨ c = '\\' then ['\\', c]
    else if c.toNat < 0x20 ∨ c.toNat = 0x7F then escape c.toNat
    else [c]

/-- A text between quotation marks. -/
def Writer.text (s : List Glyph) : String :=
  String.ofList ('"' :: (s.flatMap glyph ++ ['"']))

mutual

/-- A value as a document. -/
def Value.write : Value → String
  | .null => "null"
  | .bool b => if b then "true" else "false"
  | .int n => toString n
  | .float x => Decimal.shown Decimal.documentStyle x
  | .string s => Writer.text s
  | .array items => "[" ++ ",".intercalate (writeItems items) ++ "]"
  | .object members => "\x7b" ++ ",".intercalate (writeMembers members) ++ "\x7d"

/-- The items of an array, each written. -/
def writeItems : List Value → List String
  | [] => []
  | v :: rest => v.write :: writeItems rest

/-- The members of an object, each written. -/
def writeMembers : List (List Glyph × Value) → List String
  | [] => []
  | (k, v) :: rest => (Writer.text k ++ ":" ++ v.write) :: writeMembers rest

end

end Clearance.Json
