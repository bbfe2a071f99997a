import Clearance.Decimal.Shown
import Clearance.Json.Value
import Clearance.Numeral
import Clearance.Text.Quoted

/-!
# Values as they are shown

A value appears in messages in one of two ways. Shown as an item (`Value.shown`) every text in it is
quoted. Shown as a text (`Value.plain`) a text stands for itself, and any other value is shown as an
item. Values become settings, names and addresses by the second way, as texts of characters
(`Value.text`), and as such they are the texts that they stand for unless half of a surrogate pair
stands alone in them (`ofString_text`).

A whole number of more than 4300 digits is not shown, and neither is a value that holds one. No
document that can be read holds such a number.
-/

namespace Clearance.Json

open Clearance.Text (Glyph Quoted.encode)

/-- How a truth value is spelled in messages. -/
def boolWord (b : Bool) : String :=
  if b then "True" else "False"

mutual

/-- A value as an item of a message. -/
def Value.shown : Value → String
  | .null => "None"
  | .bool b => boolWord b
  | .int n => toString n
  | .float x => Decimal.shown Decimal.messageStyle x
  | .string s => String.ofList (Quoted.encode s)
  | .array items => "[" ++ ", ".intercalate (shownItems items) ++ "]"
  | .object members => "\x7b" ++ ", ".intercalate (shownMembers members) ++ "\x7d"

/-- The items of an array, each shown. -/
def shownItems : List Value → List String
  | [] => []
  | v :: rest => v.shown :: shownItems rest

/-- The members of an object, each shown with its key before a colon. -/
def shownMembers : List (List Glyph × Value) → List String
  | [] => []
  | (k, v) :: rest => (String.ofList (Quoted.encode k) ++ ": " ++ v.shown) :: shownMembers rest

end

mutual

/-- Whether the value can be shown, for which no whole number in it may have too many digits. -/
def Value.isShowable : Value → Bool
  | .int n => n.natAbs < Nat.pow 10 Numeral.maxDigits
  | .array items => areShowable items
  | .object members => haveShowable members
  | .null | .bool _ | .float _ | .string _ => true

/-- Whether all items of an array can be shown. -/
def areShowable : List Value → Bool
  | [] => true
  | v :: rest => v.isShowable && areShowable rest

/-- Whether all values in an object can be shown. -/
def haveShowable : List (List Glyph × Value) → Bool
  | [] => true
  | (_, v) :: rest => v.isShowable && haveShowable rest

end

/-- A value as a text of its own. -/
def Value.plain : Value → List Glyph
  | .string s => s
  | v => Glyph.ofString v.shown

/-- A value as a text of characters. -/
def Value.text (v : Value) : String :=
  Glyph.toText v.plain

theorem ofString_text {v : Value} (whole : Glyph.Whole v.plain) :
    Glyph.ofString v.text = v.plain :=
  Glyph.ofString_toText whole

end Clearance.Json
