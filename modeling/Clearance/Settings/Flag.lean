import Clearance.Fault
import Clearance.Text.Blank
import Clearance.Text.Lower

/-!
# Flags

A setting that is on or off is written as one of four words each. Blanks around the word and the
case of its letters do not matter.

* No word says both (`not_both_ways`).
-/

namespace Clearance.Settings.Flag

/-- The words that turn a setting on. -/
def onWords : List String := ["true", "yes", "1", "on"]

/-- The words that turn a setting off. -/
def offWords : List String := ["false", "no", "0", "off"]

/-- Reads the flag that the text of a setting holds. -/
def read (setting text : String) : Except Fault Bool :=
  let word := String.ofList (Text.lower (Text.trim text.toList))
  if word ∈ onWords then .ok true
  else if word ∈ offWords then .ok false
  else .error (.configuration (.text (.flag setting text)))

theorem not_both_ways : ∀ word ∈ onWords, word ∉ offWords := by
  decide

end Clearance.Settings.Flag
