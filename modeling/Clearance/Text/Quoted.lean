import Clearance.Text.Glyph
import Clearance.Text.Printable

/-!
# Quoted texts

How a text is shown inside a message so that its ends and its odd characters can be seen. The text
stands between apostrophes, or between quotation marks if it holds an apostrophe and no quotation
mark. A backslash and the mark in use are escaped by a backslash, the three common controls have
short escapes, and every other character that does not print is shown by its number.
-/

namespace Clearance.Text.Quoted

/-- A lower-case hexadecimal number, filled with zeros to the given width. -/
def hex (width n : Nat) : List Char :=
  let digits := Nat.toDigits 16 n
  List.replicate (width - digits.length) '0' ++ digits

/-- The number of a character that does not print, in the shortest of the three widths. -/
def number (n : Nat) : List Char :=
  if n < 0x100 then '\\' :: 'x' :: hex 2 n
  else if n < 0x10000 then '\\' :: 'u' :: hex 4 n
  else '\\' :: 'U' :: hex 8 n

/-- What is written for one glyph between two marks. -/
def escape (mark : Char) : Glyph → List Char
  | .lone half => number (0xD800 + half)
  | .char c =>
    if c = mark ∨ c = '\\' then ['\\', c]
    else if c = '\n' then ['\\', 'n']
    else if c = '\r' then ['\\', 'r']
    else if c = '\t' then ['\\', 't']
    else if isPrintable c then [c]
    else number c.toNat

/-- The mark that the text stands between. -/
def markOf (s : List Glyph) : Char :=
  if s.contains (.char '\x27') && !s.contains (.char '"') then '"' else '\x27'

/-- The text as it is quoted. -/
def encode (s : List Glyph) : List Char :=
  let mark := markOf s
  mark :: (s.flatMap (escape mark) ++ [mark])

end Clearance.Text.Quoted

namespace Clearance.Text

/-- A text, quoted. -/
def quote (s : String) : String :=
  String.ofList (Quoted.encode (Glyph.ofString s))

/-- A list of texts, each quoted, between square brackets. -/
def quoteList (items : List String) : String :=
  "[" ++ ", ".intercalate (items.map quote) ++ "]"

end Clearance.Text
