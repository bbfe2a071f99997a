/-!
# Texts with broken surrogate pairs

Text that arrives in a message body may hold half of a surrogate pair, which no character is. Such
a text is kept as a list of glyphs, so that it can be shown exactly as it came. The names, addresses
and settings of this library are texts of characters. A lone half becomes the replacement character
there, so that texts which differ in their lone halves alone are not told apart; all other texts
are.

* A text of characters is kept by its glyphs (`toText_ofString`), and a text of glyphs by its
  characters if it holds no lone half (`ofString_toText`).
-/

namespace Clearance.Text

/-- A character, or the half `0xD800 + half` of a surrogate pair whose partner is missing. -/
inductive Glyph where
  | char (c : Char)
  | lone (half : Fin 0x800)
  deriving DecidableEq, Repr

namespace Glyph

/-- The character that stands for the glyph in a text of characters. -/
def toChar : Glyph → Char
  | char c => c
  | lone _ => '\ufffd'

/-- The glyphs of a text. -/
def ofString (s : String) : List Glyph :=
  s.toList.map char

/-- A text of glyphs as a text of characters. -/
def toText (s : List Glyph) : String :=
  String.ofList (s.map toChar)

/-- The glyph with this number; numbers above those of Unicode have none. -/
def ofNat? (n : Nat) : Option Glyph :=
  if h : n.isValidChar then some (char (Char.ofNatAux n h))
  else if h : 0xD800 ≤ n ∧ n < 0xE000 then some (lone ⟨n - 0xD800, by omega⟩)
  else none

/-- No half of a surrogate pair stands alone in the text. -/
def Whole (s : List Glyph) : Prop :=
  ∀ half, lone half ∉ s

theorem toText_ofString (s : String) : toText (ofString s) = s := by
  simp [toText, ofString, toChar, Function.comp_def]

theorem ofString_toText {s : List Glyph} (whole : Whole s) : ofString (toText s) = s := by
  have kept : ∀ g ∈ s, char (toChar g) = g := by
    intro g present
    cases g with
    | char c => rfl
    | lone half => exact absurd present (whole half)
  rw [ofString, toText, String.toList_ofList, List.map_map]
  exact (List.map_congr_left kept).trans (List.map_id s)

end Glyph

end Clearance.Text
