import Clearance.Text.Glyph

/-!
# Documents

The values of a JSON document. An object keeps its members in the order in which they came, and
holds every key once: a key that is written again keeps its first place and takes its last value
(`insert`).

* After an insertion the key has the new value (`get?_insert_self`), and every other key the value
  it had (`get?_insert_of_ne`).
-/

namespace Clearance.Json

open Clearance.Text (Glyph)

/-- A JSON value. Whole numbers and doubles are told apart by how they are written. -/
inductive Value where
  | null
  | bool (b : Bool)
  | int (n : Int)
  | float (x : Float)
  | string (s : List Glyph)
  | array (items : List Value)
  | object (members : List (List Glyph × Value))
  deriving Inhabited

/-- The members of an object, in order. -/
abbrev Members := List (List Glyph × Value)

/-- Puts a member in: over the member of that key if there is one, otherwise at the end. -/
def Members.insert (key : List Glyph) (v : Value) : Members → Members
  | [] => [(key, v)]
  | (k, w) :: rest => if k = key then (k, v) :: rest else (k, w) :: Members.insert key v rest

/-- The value of a key. -/
def Members.get? (key : List Glyph) : Members → Option Value
  | [] => none
  | (k, v) :: rest => if k = key then some v else Members.get? key rest

namespace Value

/-- A text as a value. -/
def ofString (s : String) : Value :=
  string (Glyph.ofString s)

/-- The value of a key, if the value is an object that has it. -/
def get? (v : Value) (key : String) : Option Value :=
  match v with
  | object members => Members.get? (Glyph.ofString key) members
  | _ => none

/-- Whether the value counts as present: null, false, zero and whatever is empty do not. -/
def isPresent : Value → Bool
  | null => false
  | bool b => b
  | int n => n != 0
  | float x => x != 0
  | string s => !s.isEmpty
  | array items => !items.isEmpty
  | object members => !members.isEmpty

end Value

theorem get?_insert_self (key : List Glyph) (v : Value) (members : Members) :
    Members.get? key (Members.insert key v members) = some v := by
  induction members with
  | nil => simp [Members.insert, Members.get?]
  | cons m rest ih =>
    rw [Members.insert]
    split
    · next h => rw [Members.get?, if_pos h]
    · next h => rw [Members.get?, if_neg h, ih]

theorem get?_insert_of_ne {key other : List Glyph} (h : other ≠ key) (v : Value)
    (members : Members) :
    Members.get? other (Members.insert key v members) = Members.get? other members := by
  induction members with
  | nil => simp [Members.insert, Members.get?, h.symm]
  | cons m rest ih =>
    rw [Members.insert]
    split
    · next hk =>
      have hm : ¬ m.1 = other := fun e => h (e.symm.trans hk)
      rw [Members.get?, if_neg hm, Members.get?, if_neg hm]
    · next hk => rw [Members.get?, Members.get?, ih]

end Clearance.Json
