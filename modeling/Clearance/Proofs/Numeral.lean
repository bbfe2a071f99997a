import Clearance.Numeral
import Clearance.Proofs.Text.Digit
import Mathlib.Algebra.Group.Nat.Defs
import Mathlib.Data.List.TakeWhile

/-!
# Numbers in runs of digits

A run of digits is read as a number if all of them are decimal and there are not too many. A digit
that is not decimal ends the number before it, and what is left is no number then.

Results:
1. `readInt_of_digits`: what is read from a run of digits.
2. `ofDigits_append`, `ofDigits_lt`, `ofDigits_toDigits`: the values of runs of digits, and the
   digits of values.
3. `toList_toString_ofNat`, `toList_toString_negSucc`: how numbers are written.
-/

namespace Clearance.Numeral

open Text (decimal? isBlank isDecimal isDigit)

/-- The number can be read from the run: all digits are decimal, and there are not too many. -/
def Readable (run : List Char) : Prop :=
  (∀ c ∈ run, isDecimal c = true) ∧ run.length ≤ maxDigits

/-- Why no number can be read from a run of digits. Too many decimal digits at its front are noticed
before a digit of another kind. -/
def flawOf (run : List Char) : Flaw :=
  if maxDigits < (run.takeWhile isDecimal).length then
    .tooLong (run.takeWhile isDecimal).length
  else .malformed (String.ofList run)

section Digits

variable {run : List Char} (digits : ∀ c ∈ run, isDigit c = true)
include digits

theorem not_mem_of_not_digit {c : Char} (other : isDigit c = false) : c ∉ run := by
  intro present
  rw [digits c present] at other
  cases other

theorem dropWhile_isPad : run.dropWhile isPad = run := by
  cases run with
  | nil => rfl
  | cons c rest =>
    have solid : ¬ isPad c = true := by
      intro pad
      have blank : isBlank c = true := (Bool.and_eq_true_iff.mp pad).1
      exact not_mem_of_not_digit digits (Text.isDigit_of_isBlank blank) List.mem_cons_self
    exact List.dropWhile_cons_of_neg solid

theorem splitSign_of_digits : splitSign run = (false, run) := by
  unfold splitSign
  split
  · exact absurd List.mem_cons_self (not_mem_of_not_digit digits (by decide))
  · exact absurd List.mem_cons_self (not_mem_of_not_digit digits (by decide))
  · rfl

/-- There are no underscores that a run of digits could go on through. -/
theorem span_of_digits :
    run.takeWhile (fun c => isDecimal c || c == '_') = run.takeWhile isDecimal ∧
      run.dropWhile (fun c => isDecimal c || c == '_') = run.dropWhile isDecimal := by
  have plain : '_' ∉ run := not_mem_of_not_digit digits (by decide)
  clear digits
  induction run with
  | nil => exact ⟨rfl, rfl⟩
  | cons c rest ih =>
    obtain ⟨notHere, notLater⟩ := not_or.mp (mt List.mem_cons.mpr plain)
    obtain ⟨taken, dropped⟩ := ih notLater
    have same : (isDecimal c || c == '_') = isDecimal c := by
      have differs : (c == '_') = false := beq_false_of_ne (Ne.symm notHere)
      rw [differs, Bool.or_false]
    exact ⟨by simp only [List.takeWhile_cons, same, taken],
      by simp only [List.dropWhile_cons, same, dropped]⟩

theorem wellGrouped_of_digits :
    wellGrouped (run.takeWhile isDecimal) = decide (run.takeWhile isDecimal ≠ []) := by
  have plain : '_' ∉ run.takeWhile isDecimal := fun present =>
    not_mem_of_not_digit digits (by decide) ((List.takeWhile_prefix _).subset present)
  rw [wellGrouped, List.splitOn_eq_singleton plain, List.all_cons, List.all_nil, Bool.and_true]

/-- What follows the decimal digits is not blank. -/
theorem all_isPad_of_digits :
    (run.dropWhile isDecimal).all isPad = true ↔ ∀ c ∈ run, isDecimal c = true := by
  rw [← List.dropWhile_eq_nil_iff]
  constructor
  · intro pads
    cases rest : run.dropWhile isDecimal with
    | nil => rfl
    | cons c more =>
      have present : c ∈ run.dropWhile isDecimal := by simp [rest]
      have pad : isPad c = true := List.all_eq_true.mp pads c present
      have blank : isBlank c = true := (Bool.and_eq_true_iff.mp pad).1
      exact absurd ((List.dropWhile_suffix _).subset present)
        (not_mem_of_not_digit digits (Text.isDigit_of_isBlank blank))
  · intro none
    rw [none]
    rfl

/-- A run of digits is a number if it is readable, and otherwise has the flaw that it has. -/
theorem readInt_of_digits (nonempty : run ≠ []) :
    (Readable run → readInt run = .ok (ofDigits run)) ∧
      (¬ Readable run → readInt run = .error (flawOf run)) := by
  obtain ⟨taken, dropped⟩ := span_of_digits digits
  have decimals : (run.takeWhile isDecimal).filter isDecimal = run.takeWhile isDecimal :=
    List.filter_eq_self.mpr fun c present => List.mem_takeWhile_imp present
  have reading : readInt run =
      if run.takeWhile isDecimal = [] then .error (.malformed (String.ofList run))
      else if maxDigits < (run.takeWhile isDecimal).length then
        .error (.tooLong (run.takeWhile isDecimal).length)
      else if ∀ c ∈ run, isDecimal c = true then .ok (ofDigits (run.takeWhile isDecimal))
      else .error (.malformed (String.ofList run)) := by
    simp only [readInt, dropWhile_isPad digits, splitSign_of_digits digits, taken, dropped,
      wellGrouped_of_digits digits, decimals, all_isPad_of_digits digits]
    simp
  rw [reading]
  constructor
  · rintro ⟨all, short⟩
    have whole : run.takeWhile isDecimal = run := List.takeWhile_eq_self_iff.mpr all
    rw [whole, if_neg nonempty, if_neg (Nat.not_lt.mpr short), if_pos all]
  · intro unreadable
    rw [flawOf]
    by_cases empty : run.takeWhile isDecimal = []
    · simp [empty]
    · rw [if_neg empty]
      split
      · rfl
      · next short =>
        refine if_neg fun all => unreadable ⟨all, ?_⟩
        rw [← List.takeWhile_eq_self_iff.mpr all]
        exact Nat.not_lt.mp short

end Digits

/-! ## The digits of numbers -/

/-- Digits that follow others push those to the left. -/
theorem ofDigits_append (run more : List Char) :
    ofDigits (run ++ more) = ofDigits run * 10 ^ more.length + ofDigits more := by
  have step (rest : List Char) (n : Nat) :
      rest.foldl (fun n c => 10 * n + (decimal? c).getD 0) n =
        n * 10 ^ rest.length + ofDigits rest := by
    induction rest generalizing n with
    | nil => simp [ofDigits]
    | cons c rest ih =>
      rw [ofDigits, List.foldl_cons, List.foldl_cons, ih, ih, List.length_cons, Nat.pow_succ',
        Nat.mul_zero, Nat.zero_add, Nat.add_mul, Nat.mul_comm 10 n, Nat.mul_assoc, Nat.add_assoc]
  rw [ofDigits, List.foldl_append, step]
  rfl

/-- A run of digits is worth less than the power of ten that it is too short for. -/
theorem ofDigits_lt (run : List Char) : ofDigits run < 10 ^ run.length := by
  induction run with
  | nil => decide
  | cons c rest ih =>
    have digit : ofDigits [c] < 10 := by
      show 10 * 0 + (decimal? c).getD 0 < 10
      cases known : decimal? c with
      | none => decide
      | some d =>
        have small := Text.decimal?_lt known
        rw [Option.getD_some]
        omega
    calc
      ofDigits ([c] ++ rest) = ofDigits [c] * 10 ^ rest.length + ofDigits rest :=
        ofDigits_append [c] rest
      _ < ofDigits [c] * 10 ^ rest.length + 10 ^ rest.length := Nat.add_lt_add_left ih _
      _ = (ofDigits [c] + 1) * 10 ^ rest.length := (Nat.succ_mul _ _).symm
      _ ≤ 10 * 10 ^ rest.length := Nat.mul_le_mul_right _ digit
      _ = 10 ^ (c :: rest).length := Nat.pow_succ'.symm

theorem ofDigits_toDigits (n : Nat) : ofDigits (Nat.toDigits 10 n) = n := by
  have alike (run : List Char) (digits : ∀ c ∈ run, c.isDigit = true) (m : Nat) :
      run.foldl (fun n c => 10 * n + (decimal? c).getD 0) m = Nat.ofDigitChars 10 run m := by
    induction run generalizing m with
    | nil => rfl
    | cons c rest ih =>
      rw [List.foldl_cons, Text.decimal?_of_isDigit (digits c List.mem_cons_self)]
      exact ih (fun d present => digits d (List.mem_cons_of_mem _ present)) _
  calc
    ofDigits (Nat.toDigits 10 n) = Nat.ofDigitChars 10 (Nat.toDigits 10 n) 0 :=
      alike _ (fun c present => Nat.isDigit_of_mem_toDigits (by decide) (by decide) present) 0
    _ = n := Nat.ofDigitChars_ten_toDigits

theorem isDecimal_of_mem_toDigits {n : Nat} {c : Char} (present : c ∈ Nat.toDigits 10 n) :
    isDecimal c = true := by
  have digit := Nat.isDigit_of_mem_toDigits (by decide) (by decide) present
  rw [isDecimal, Text.decimal?_of_isDigit digit]
  rfl

theorem toList_toString_ofNat (n : Nat) : (toString (n : Int)).toList = Nat.toDigits 10 n := by
  have written : toString (n : Int) = String.ofList (Nat.toDigits 10 n) :=
    Nat.toString_eq_ofList_toDigits
  rw [written, String.toList_ofList]

theorem toList_toString_negSucc (n : Nat) :
    (toString (Int.negSucc n)).toList = '-' :: Nat.toDigits 10 (n + 1) := by
  have written : toString (Int.negSucc n) = "-" ++ toString (n + 1) := rfl
  rw [written, Nat.toString_eq_ofList_toDigits]
  simp

end Clearance.Numeral
