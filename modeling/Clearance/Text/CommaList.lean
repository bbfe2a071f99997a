import Clearance.Text.Blank

/-!
# Comma lists

A setting that holds several values separates them by commas. Blanks around a value do not belong
to it, and an entry of blanks alone is no value.
-/

namespace Clearance.Text.CommaList

/-- The values of a comma list. -/
def values (s : List Char) : List (List Char) :=
  ((s.splitOn ',').map trim).filter (· ≠ [])

/-- `values` on strings. -/
def read (s : String) : List String :=
  (values s.toList).map String.ofList

end Clearance.Text.CommaList
