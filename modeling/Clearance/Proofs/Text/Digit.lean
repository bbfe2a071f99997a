import Clearance.Text.Blank
import Clearance.Text.Digit

/-!
# Digits and blanks

Both classes are given by tables, and no character is in both of them.

Results:
1. `isDigit_of_isBlank`, `isBlank_of_isDecimal`: a blank is no digit.
2. `decimal?_of_isDigit`: the ten digits of the core class are decimal, and worth what they say.
-/

namespace Clearance.Text

/-- The numbers of the blank characters. -/
def blankCodes : List Nat :=
  [0x09, 0x0A, 0x0B, 0x0C, 0x0D, 0x1C, 0x1D, 0x1E, 0x1F, 0x20, 0x85, 0xA0, 0x1680, 0x2000, 0x2001,
   0x2002, 0x2003, 0x2004, 0x2005, 0x2006, 0x2007, 0x2008, 0x2009, 0x200A, 0x2028, 0x2029, 0x202F,
   0x205F, 0x3000]

theorem mem_blankCodes {c : Char} (blank : isBlank c = true) : c.toNat ∈ blankCodes := by
  simp only [isBlank, Bool.or_eq_true, Bool.and_eq_true, decide_eq_true_eq, beq_iff_eq] at blank
  simp only [blankCodes, List.mem_cons, List.not_mem_nil, or_false]
  omega

/-- Whether the character of this number is a digit. -/
def isDigitCode (n : Nat) : Bool :=
  (zeros.find? fun z => z ≤ n && n < z + 10).isSome ||
    bareDigits.any fun (first, last) => first ≤ n && n ≤ last

theorem isDigit_eq (c : Char) : isDigit c = isDigitCode c.toNat := by
  simp [isDigit, isDecimal, decimal?, isDigitCode]

theorem blankCodes_no_digits : ∀ n ∈ blankCodes, isDigitCode n = false := by
  decide +kernel

theorem isDigit_of_isBlank {c : Char} (blank : isBlank c = true) : isDigit c = false := by
  rw [isDigit_eq]
  exact blankCodes_no_digits _ (mem_blankCodes blank)

theorem isBlank_of_isDecimal {c : Char} (decimal : isDecimal c = true) : isBlank c = false := by
  cases blank : isBlank c with
  | false => rfl
  | true =>
    have other := isDigit_of_isBlank blank
    rw [isDigit_of_isDecimal decimal] at other
    cases other

/-- The zero of this script is the first one in the table. -/
theorem decimal?_of_isDigit {c : Char} (digit : c.isDigit = true) :
    decimal? c = some (c.toNat - '0'.toNat) := by
  have range : 0x30 ≤ c.toNat ∧ c.toNat < 0x3A := by
    simp only [Char.isDigit, Bool.and_eq_true, decide_eq_true_eq] at digit
    exact ⟨digit.1, Nat.lt_succ_of_le digit.2⟩
  have found : (zeros.find? fun z => z ≤ c.toNat && c.toNat < z + 10) = some 0x30 :=
    List.find?_cons_of_pos (by simp [range])
  rw [decimal?, found]
  rfl

end Clearance.Text
