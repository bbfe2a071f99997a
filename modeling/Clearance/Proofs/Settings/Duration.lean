import Clearance.Proofs.Decimal.Nearest
import Clearance.Proofs.Numeral
import Clearance.Proofs.Text.Trim
import Clearance.Settings.Duration

/-!
# Texts of durations

The text of a duration is the text of a number and perhaps the symbol of a unit, with blanks before,
between and behind them. No character of a number can be one of what follows it, since digits and
the point are neither blank nor in a symbol. So the number is all that a reader can take of it, the
rest without blanks is the symbol, and a text is split in one way only. The number that the digits
stand for is a fraction, and what is multiplied by the length of the unit is the double that this
fraction is rounded to.

Results:
1. `splitUnit_iff`: the unit of what follows the number.
2. `Number.read`, `exists_number`: the number at the front of a text is what the reader takes.
3. `parse?_iff`, `split_iff`: the durations that are read, and the parts of their texts.
4. `duration_grammar`: the texts of durations, their parts, and what is read from them.
-/

namespace Clearance.Settings.Duration

open Text (isBlank isDecimal trim trimStart)

/-! ## The grammar -/

/-- One or more digits of any script. -/
structure Digits (run : List Char) : Prop where
  nonempty : run ≠ []
  decimal : ∀ c ∈ run, isDecimal c = true

/-- The text of a number, with its digits before and after the point. There is no point without
digits on both sides of it. -/
inductive Number : List Char → List Char → List Char → Prop
  | whole {whole : List Char} (digits : Digits whole) : Number whole whole []
  | point {whole fraction : List Char} (digits : Digits whole) (places : Digits fraction) :
      Number (whole ++ '.' :: fraction) whole fraction

/-- The text of a unit, with its length in seconds. Without a unit seconds are counted. -/
inductive Measure : List Char → Float → Prop
  | none : Measure [] 1.0
  | milliseconds : Measure ['m', 's'] 0.001
  | seconds : Measure ['s'] 1.0
  | minutes : Measure ['m'] 60.0
  | hours : Measure ['h'] 3600.0

/-- The text of a duration, with those of its number and its unit. -/
inductive Split : List Char → List Char → List Char → Prop
  | intro {front number whole fraction gap unit back : List Char} {length : Float}
      (blankFront : ∀ c ∈ front, isBlank c = true) (counted : Number number whole fraction)
      (blankGap : ∀ c ∈ gap, isBlank c = true) (measured : Measure unit length)
      (blankBack : ∀ c ∈ back, isBlank c = true) :
      Split (front ++ (number ++ (gap ++ (unit ++ back)))) number unit

/-! ## Units -/

/-- How a unit is written that may be missing. -/
def unitText (unit : Option TimeUnit) : List Char :=
  unit.elim [] TimeUnit.symbol

theorem measure_iff {text : List Char} {length : Float} :
    Measure text length ↔
      ∃ unit : Option TimeUnit, text = unitText unit ∧ length = (unit.getD .seconds).length := by
  constructor
  · intro measured
    cases measured with
    | none => exact ⟨none, rfl, rfl⟩
    | milliseconds => exact ⟨some .milliseconds, rfl, rfl⟩
    | seconds => exact ⟨some .seconds, rfl, rfl⟩
    | minutes => exact ⟨some .minutes, rfl, rfl⟩
    | hours => exact ⟨some .hours, rfl, rfl⟩
  · rintro ⟨none | unit, rfl, rfl⟩
    · exact .none
    · cases unit with
      | milliseconds => exact .milliseconds
      | seconds => exact .seconds
      | minutes => exact .minutes
      | hours => exact .hours

theorem solid_unitText (unit : Option TimeUnit) : Text.Solid (unitText unit) := by
  cases unit with
  | none => exact ⟨nofun, nofun⟩
  | some unit =>
    cases unit <;>
      exact ⟨fun c first => by cases first; decide, fun c last => by cases last; decide⟩

theorem splitUnit_eq_some {rest : List Char} {unit : Option TimeUnit} :
    splitUnit rest = some unit ↔ trim rest = unitText unit := by
  unfold splitUnit
  by_cases blank : trim rest = []
  · rw [if_pos blank, blank]
    cases unit with
    | none => exact ⟨fun _ => rfl, fun _ => rfl⟩
    | some unit => cases unit <;> exact ⟨nofun, nofun⟩
  · rw [if_neg blank]
    constructor
    · intro given
      obtain ⟨known, found, rfl⟩ := Option.map_eq_some_iff.mp given
      have same := List.find?_some found
      exact (beq_iff_eq.mp same).symm
    · intro written
      cases unit with
      | none => exact absurd written blank
      | some unit =>
        have symbol : trim rest = unit.symbol := written
        rw [symbol, TimeUnit.ofSymbol?_symbol]
        rfl

theorem splitUnit_iff {rest : List Char} {unit : Option TimeUnit} :
    splitUnit rest = some unit ↔ ∃ gap back, rest = gap ++ unitText unit ++ back ∧
      (∀ c ∈ gap, isBlank c = true) ∧ ∀ c ∈ back, isBlank c = true := by
  rw [splitUnit_eq_some, Text.trim_eq_iff]
  exact and_iff_right (solid_unitText unit)

theorem unitText_inj {unit other : Option TimeUnit} (same : unitText unit = unitText other) :
    unit = other := by
  have read (any : Option TimeUnit) : splitUnit (unitText any) = some any :=
    splitUnit_iff.mpr ⟨[], [], (List.append_nil _).symm, nofun, nofun⟩
  rw [← Option.some_inj, ← read unit, same, read other]

/-- What follows the number goes on with neither a digit nor a point. -/
theorem apart_of_splitUnit {rest : List Char} {unit : Option TimeUnit}
    (split : splitUnit rest = some unit) : ∀ c ∈ rest, isDecimal c = false ∧ c ≠ '.' := by
  have blanks {c : Char} (blank : isBlank c = true) : isDecimal c = false ∧ c ≠ '.' := by
    refine ⟨?_, fun point => ?_⟩
    · by_contra decimal
      rw [Text.isBlank_of_isDecimal (Bool.of_not_eq_false decimal)] at blank
      cases blank
    · rw [point] at blank
      exact absurd blank (by decide)
  have symbols : (unitText unit).all (fun c => !isDecimal c && c != '.') = true := by
    cases unit with
    | none => rfl
    | some unit => cases unit <;> decide
  obtain ⟨gap, back, rfl, blankGap, blankBack⟩ := splitUnit_iff.mp split
  intro c present
  obtain (inGap | inUnit) | inBack := by simpa only [List.mem_append] using present
  · exact blanks (blankGap c inGap)
  · simpa using List.all_eq_true.mp symbols c inUnit
  · exact blanks (blankBack c inBack)

/-! ## Numbers -/

theorem digits_takeWhile {s : List Char} (nonempty : s.takeWhile isDecimal ≠ []) :
    Digits (s.takeWhile isDecimal) :=
  ⟨nonempty, fun _ present => List.mem_takeWhile_imp present⟩

section Numbers

variable {number whole fraction rest : List Char}

theorem splitFraction_point (after : List Char) :
    splitFraction ('.' :: after) =
      if after.takeWhile isDecimal = [] then none
      else some (after.takeWhile isDecimal, after.dropWhile isDecimal) :=
  rfl

theorem splitFraction_of_apart (apart : ∀ c ∈ rest.head?, c ≠ '.') :
    splitFraction rest = some ([], rest) := by
  unfold splitFraction
  split
  · exact absurd rfl (apart '.' rfl)
  · rfl

theorem Number.digits (counted : Number number whole fraction) : Digits whole := by
  cases counted with
  | whole digits | point digits => exact digits

theorem Number.nonblank (counted : Number number whole fraction) (rest : List Char) :
    ∀ c ∈ (number ++ rest).head?, isBlank c = false := by
  have start {run : List Char} (digits : Digits run) (more : List Char) :
      ∀ c ∈ (run ++ more).head?, isBlank c = false := by
    obtain ⟨first, others, rfl⟩ := List.exists_cons_of_ne_nil digits.nonempty
    intro c head
    cases head
    exact Text.isBlank_of_isDecimal (digits.decimal _ List.mem_cons_self)
  cases counted with
  | whole digits => exact start digits rest
  | point digits =>
    rw [List.append_assoc]
    exact start digits _

/-- A number is taken from the front of a text whatever follows, unless that could belong to it. -/
theorem Number.read (counted : Number number whole fraction)
    (apart : ∀ c ∈ rest, isDecimal c = false ∧ c ≠ '.') :
    (number ++ rest).takeWhile isDecimal = whole ∧
      splitFraction ((number ++ rest).dropWhile isDecimal) = some (fraction, rest) := by
  have ends : ∀ c ∈ rest.head?, isDecimal c = false := fun c head =>
    (apart c (List.mem_of_mem_head? head)).1
  cases counted with
  | whole digits =>
    obtain ⟨taken, dropped⟩ := Text.span_append digits.decimal ends
    rw [taken, dropped]
    exact ⟨rfl, splitFraction_of_apart fun c head => (apart c (List.mem_of_mem_head? head)).2⟩
  | point digits places =>
    -- The point ends the digits before it, and what follows the number ends those behind it.
    have stops : ∀ c ∈ ('.' :: (fraction ++ rest)).head?, isDecimal c = false := by
      intro c head
      cases head
      decide
    obtain ⟨taken, dropped⟩ := Text.span_append digits.decimal stops
    obtain ⟨takenPlaces, droppedPlaces⟩ := Text.span_append places.decimal ends
    rw [List.append_assoc, List.cons_append, taken, dropped, splitFraction_point, takenPlaces,
      droppedPlaces, if_neg places.nonempty]
    exact ⟨rfl, rfl⟩

/-- What is taken from the front of a text is a number. -/
theorem exists_number {body : List Char} (nonempty : body.takeWhile isDecimal ≠ [])
    (split : splitFraction (body.dropWhile isDecimal) = some (fraction, rest)) :
    ∃ number, Number number (body.takeWhile isDecimal) fraction ∧ body = number ++ rest := by
  have digits := digits_takeWhile nonempty
  have parts : body.takeWhile isDecimal ++ body.dropWhile isDecimal = body :=
    List.takeWhile_append_dropWhile
  unfold splitFraction at split
  split at split
  · next after behind =>
    by_cases none : after.takeWhile isDecimal = []
    · rw [if_pos none] at split
      cases split
    · rw [if_neg none] at split
      cases split
      refine ⟨_, .point digits (digits_takeWhile none), ?_⟩
      rw [List.append_assoc, List.cons_append, List.takeWhile_append_dropWhile, ← behind, parts]
  · cases split
    exact ⟨_, .whole digits, parts.symm⟩

/-- The text of a number tells its digits. -/
theorem Number.unique {others places : List Char} (counted : Number number whole fraction)
    (other : Number number others places) : whole = others ∧ fraction = places := by
  have ends : ∀ c ∈ ([] : List Char), isDecimal c = false ∧ c ≠ '.' := nofun
  obtain ⟨taken, split⟩ := counted.read ends
  obtain ⟨otherTaken, otherSplit⟩ := other.read ends
  rw [split] at otherSplit
  cases otherSplit
  exact ⟨taken.symm.trans otherTaken, rfl⟩

/-- The digits of a number tell its text. -/
theorem Number.text_unique {other : List Char} (counted : Number number whole fraction)
    (again : Number other whole fraction) : number = other := by
  cases counted with
  | whole =>
    cases again with
    | whole => rfl
    | point _ places => exact absurd rfl places.nonempty
  | point _ places =>
    cases again with
    | whole => exact absurd rfl places.nonempty
    | point => rfl

end Numbers

/-! ## Texts -/

section Texts

variable {s number unit : List Char} {d : Duration}

theorem parse?_iff : parse? s = some d ↔
    ∃ front number rest, s = front ++ (number ++ rest) ∧ (∀ c ∈ front, isBlank c = true) ∧
      Number number d.whole d.fraction ∧ splitUnit rest = some d.unit := by
  unfold parse?
  dsimp only
  constructor
  · intro parsed
    split at parsed
    · cases parsed
    · next nonempty =>
      obtain ⟨⟨fraction, rest⟩, split, measured⟩ := Option.bind_eq_some_iff.mp parsed
      obtain ⟨unit, symbol, rfl⟩ := Option.map_eq_some_iff.mp measured
      obtain ⟨number, counted, body⟩ := exists_number nonempty split
      refine ⟨s.takeWhile isBlank, number, rest, ?_, fun _ present =>
        List.mem_takeWhile_imp present, counted, symbol⟩
      rw [← body]
      exact List.takeWhile_append_dropWhile.symm
  · rintro ⟨front, number, rest, rfl, blank, counted, measured⟩
    have body : trimStart (front ++ (number ++ rest)) = number ++ rest :=
      Text.dropWhile_eq_iff.mpr ⟨counted.nonblank rest, front, rfl, blank⟩
    obtain ⟨taken, split⟩ := counted.read (apart_of_splitUnit measured)
    rw [body, taken, split, if_neg counted.digits.nonempty, Option.bind_some, measured]
    rfl

/-- A text is split in the way in which it is read. -/
theorem split_iff : Split s number unit ↔
    ∃ d, parse? s = some d ∧ Number number d.whole d.fraction ∧ unit = unitText d.unit := by
  constructor
  · rintro ⟨blankFront, counted, blankGap, measured, blankBack⟩
    next front whole fraction gap back length =>
    obtain ⟨kind, rfl, -⟩ := measure_iff.mp measured
    have symbol : splitUnit (gap ++ (unitText kind ++ back)) = some kind :=
      splitUnit_iff.mpr ⟨gap, back, (List.append_assoc ..).symm, blankGap, blankBack⟩
    exact ⟨⟨whole, fraction, kind⟩,
      parse?_iff.mpr ⟨front, number, _, rfl, blankFront, counted, symbol⟩, counted, rfl⟩
  · rintro ⟨d, parsed, counted, rfl⟩
    obtain ⟨front, same, rest, rfl, blankFront, again, symbol⟩ := parse?_iff.mp parsed
    cases counted.text_unique again
    obtain ⟨gap, back, rfl, blankGap, blankBack⟩ := splitUnit_iff.mp symbol
    rw [List.append_assoc gap]
    exact .intro blankFront counted blankGap (measure_iff.mpr ⟨d.unit, rfl, rfl⟩) blankBack

end Texts

/-! ## Reading -/

/-- The number with some digits before and after the point. -/
def numberOf (whole fraction : List Char) : ℚ :=
  Numeral.ofDigits whole + Numeral.ofDigits fraction / 10 ^ fraction.length

theorem numberOf_eq (whole fraction : List Char) : numberOf whole fraction =
    Numeral.ofDigits (whole ++ fraction) * 10 ^ (-(fraction.length : Int)) := by
  unfold numberOf
  rw [Numeral.ofDigits_append, zpow_neg, zpow_natCast, ← div_eq_mul_inv, Nat.cast_add, add_div,
    Nat.cast_mul, Nat.cast_pow, Nat.cast_ofNat, mul_div_cancel_right₀ _ (by positivity)]

/-- What is read from the text of a setting, told by how it can be split. -/
structure Grammar (setting text : String) : Prop where
  /-- A duration is read from the texts of durations, and from no others. -/
  accepted : (∃ seconds, read setting text = .ok seconds) ↔
    ∃ number unit, Split text.toList number unit
  /-- Every other text is an error of the configuration that names the setting. -/
  refused : (¬ ∃ number unit, Split text.toList number unit) →
    read setting text = .error (.configuration (.text (.duration setting text)))
  /-- A text is split in one way at most. So what ends in `ms` does not count minutes. -/
  unique : ∀ {number unit other symbol : List Char}, Split text.toList number unit →
    Split text.toList other symbol → number = other ∧ unit = symbol
  /-- The number is rounded to one double, which is multiplied by the length of the unit. -/
  value : ∀ {number unit whole fraction : List Char} {length : Float},
    Split text.toList number unit → Number number whole fraction → Measure unit length →
      ∃ amount, (∀ double, Decimal.Rounds (numberOf whole fraction) double ↔ double = amount) ∧
        read setting text = .ok (amount * length)

theorem duration_grammar (setting text : String) : Grammar setting text where
  accepted := by
    rw [read]
    constructor
    · rintro ⟨seconds, given⟩
      split at given
      · next d parsed =>
        obtain ⟨_, number, _, _, _, counted, _⟩ := parse?_iff.mp parsed
        exact ⟨number, _, split_iff.mpr ⟨d, parsed, counted, rfl⟩⟩
      · cases given
    · rintro ⟨number, unit, split⟩
      obtain ⟨d, parsed, -, -⟩ := split_iff.mp split
      rw [parsed]
      exact ⟨_, rfl⟩
  refused none := by
    rw [read]
    split
    · next d parsed =>
      obtain ⟨_, number, _, _, _, counted, _⟩ := parse?_iff.mp parsed
      exact absurd ⟨number, _, split_iff.mpr ⟨d, parsed, counted, rfl⟩⟩ none
    · rfl
  unique split other := by
    obtain ⟨d, parsed, counted, rfl⟩ := split_iff.mp split
    obtain ⟨e, again, otherCounted, rfl⟩ := split_iff.mp other
    rw [parsed] at again
    cases again
    exact ⟨counted.text_unique otherCounted, rfl⟩
  value split counted measured := by
    obtain ⟨d, parsed, read, rfl⟩ := split_iff.mp split
    obtain ⟨rfl, rfl⟩ := read.unique counted
    obtain ⟨kind, same, rfl⟩ := measure_iff.mp measured
    cases unitText_inj same
    rw [Duration.read, parsed, numberOf_eq]
    exact ⟨_, fun _ => Decimal.rounds_iff, rfl⟩

example : parse? "\t١.50 ms\n".toList = some ⟨['١'], ['5', '0'], some .milliseconds⟩ := by
  decide +kernel

example : parse? "1. s".toList = none := by
  decide +kernel

end Clearance.Settings.Duration
