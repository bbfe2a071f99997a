import Clearance.Proofs.Numeral
import Clearance.Proofs.Text.Trim
import Clearance.Version

/-!
# Versions in texts

A version is told by the digits of its major number. Blanks and a mark may stand in front of them,
and they end the text or are followed by a point. So the digits are all of the run that they stand
in, and a text has one major number at most. A version is recorded as its major number and `.x`. A
version that was read from some text has no more digits than a number may have, so that its record
can be read too, and gives the same version.

Results:
1. `Major`, `major_iff`: the digits of the major number, told without dropping anything.
2. `read_of_major`, `read_of_no_major`: what is read from a text.
3. `read_number`: a number with a proper end after it is read as a version.
4. `read_render`: the record of a version is read back.
5. `version_grammar`: the texts of versions, and that records of versions are among them.
-/

namespace Clearance

open Text (isBlank isDecimal trimStart)

namespace Version

/-! ## The grammar -/

/-- What may stand between the blanks and the digits. -/
inductive Mark : List Char → Prop
  | none : Mark []
  | small : Mark ['v']
  | capital : Mark ['V']

/-- What may follow the digits: nothing, a point and anything, or the one line end that may stand at
the end of a text. -/
inductive Ending : List Char → Prop
  | textEnd : Ending []
  | lineEnd : Ending ['\n']
  | point (more : List Char) : Ending ('.' :: more)

/-- The text is the one of a version, and these are the digits of the major number. -/
inductive Major : List Char → List Char → Prop
  | intro {blanks mark digits rest : List Char} (blank : ∀ c ∈ blanks, isBlank c = true)
      (marked : Mark mark) (nonempty : digits ≠ [])
      (decimal : ∀ c ∈ digits, isDecimal c = true) (ending : Ending rest) :
      Major (blanks ++ (mark ++ (digits ++ rest))) digits

/-- The version can be read from some text. -/
def Legible (v : Version) : Prop :=
  ∃ text, read text = .ok v

theorem endsMajor_iff {rest : List Char} : endsMajor rest = true ↔ Ending rest := by
  constructor
  · intro ends
    unfold endsMajor at ends
    split at ends
    · exact .textEnd
    · exact .lineEnd
    · cases beq_iff_eq.mp ends
      exact .point _
  · intro ending
    cases ending with
    | textEnd | lineEnd => rfl
    | point more =>
      unfold endsMajor
      split
      · rfl
      · rfl
      · next same =>
        cases same
        rfl

/-- What the digits may end before does not go on with one. -/
theorem Ending.stops {rest : List Char} (ending : Ending rest) :
    ∀ c ∈ rest.head?, isDecimal c = false := by
  intro c first
  cases ending with
  | textEnd => cases first
  | lineEnd | point more =>
    cases first
    decide

theorem mark_of_dropMark (s : List Char) : ∃ mark, Mark mark ∧ s = mark ++ dropMark s := by
  unfold dropMark
  split
  · exact ⟨['v'], .small, rfl⟩
  · exact ⟨['V'], .capital, rfl⟩
  · exact ⟨[], .none, rfl⟩

/-- A digit is no mark. -/
theorem Mark.dropMark {mark : List Char} (marked : Mark mark) {c : Char}
    (decimal : isDecimal c = true) (more : List Char) :
    dropMark (mark ++ c :: more) = c :: more := by
  cases marked with
  | small | capital => rfl
  | none =>
    unfold Version.dropMark
    split
    · next same =>
      cases same
      exact absurd decimal (by decide)
    · next same =>
      cases same
      exact absurd decimal (by decide)
    · rfl

/-- Neither a mark nor a digit is blank. -/
theorem Mark.solid {mark : List Char} (marked : Mark mark) {c : Char}
    (decimal : isDecimal c = true) (more : List Char) :
    ∀ d ∈ (mark ++ c :: more).head?, isBlank d = false := by
  intro d first
  cases marked <;> cases first
  · exact Text.isBlank_of_isDecimal decimal
  · decide
  · decide

/-- The digits are what the reader comes to: the run behind blanks and mark, if it ends properly. -/
theorem major_iff {text digits : List Char} :
    Major text digits ↔
      digits ≠ [] ∧ (dropMark (trimStart text)).takeWhile isDecimal = digits ∧
        Ending ((dropMark (trimStart text)).dropWhile isDecimal) := by
  constructor
  · intro major
    cases major with
    | @intro blanks mark _ rest blank marked nonempty decimal ending =>
      obtain ⟨first, more, same⟩ := List.exists_cons_of_ne_nil nonempty
      have start : isDecimal first = true := decimal first (by simp [same])
      have body : dropMark (trimStart (blanks ++ (mark ++ (digits ++ rest)))) = digits ++ rest := by
        have trimmed : trimStart (blanks ++ (mark ++ (digits ++ rest))) =
            mark ++ (digits ++ rest) := by
          refine Text.dropWhile_eq_iff.mpr ⟨?_, blanks, rfl, blank⟩
          rw [same, List.cons_append]
          exact marked.solid start _
        rw [trimmed, same, List.cons_append]
        exact marked.dropMark start _
      obtain ⟨taken, dropped⟩ := Text.span_append decimal ending.stops
      rw [body, taken, dropped]
      exact ⟨nonempty, rfl, ending⟩
  · rintro ⟨nonempty, taken, ending⟩
    obtain ⟨mark, marked, unmarked⟩ := mark_of_dropMark (trimStart text)
    have decimal : ∀ c ∈ digits, isDecimal c = true := by
      rw [← taken]
      exact fun c present => List.mem_takeWhile_imp present
    have whole : text = text.takeWhile isBlank ++ (mark ++ (digits ++
        (dropMark (trimStart text)).dropWhile isDecimal)) := by
      rw [← taken, List.takeWhile_append_dropWhile, ← unmarked]
      exact List.takeWhile_append_dropWhile.symm
    rw [whole]
    exact .intro (fun c present => List.mem_takeWhile_imp present) marked nonempty decimal ending

/-- A text has one major number at most. -/
theorem Major.unique {text digits others : List Char} (major : Major text digits)
    (other : Major text others) : digits = others :=
  (major_iff.mp major).2.1.symm.trans (major_iff.mp other).2.1

/-! ## Reading -/

theorem read_of_major {text : String} {digits : List Char} (major : Major text.toList digits) :
    read text =
      if digits.length ≤ Numeral.maxDigits then .ok ⟨Numeral.ofDigits digits⟩
      else .error (.numeral (.tooLong digits.length)) := by
  obtain ⟨nonempty, taken, ending⟩ := major_iff.mp major
  have proper := endsMajor_iff.mpr ending
  unfold read
  dsimp only
  rw [taken, if_pos ⟨nonempty, proper⟩, Numeral.readDigits]
  by_cases short : digits.length ≤ Numeral.maxDigits
  · rw [if_pos short, if_pos short]
  · rw [if_neg short, if_neg short]

theorem read_of_no_major {text : String} (none : ∀ digits, ¬ Major text.toList digits) :
    read text = .error (.version text) := by
  unfold read
  dsimp only
  refine if_neg fun proper => ?_
  exact none _ (major_iff.mpr ⟨proper.1, rfl, endsMajor_iff.mp proper.2⟩)

theorem read_eq_ok {text : String} {v : Version} :
    read text = .ok v ↔
      ∃ digits, Major text.toList digits ∧ digits.length ≤ Numeral.maxDigits ∧
        v = ⟨Numeral.ofDigits digits⟩ := by
  by_cases some : ∃ digits, Major text.toList digits
  · obtain ⟨digits, major⟩ := some
    rw [read_of_major major]
    constructor
    · intro given
      split at given
      · next short =>
        cases given
        exact ⟨digits, major, short, rfl⟩
      · cases given
    · rintro ⟨_, other, short, rfl⟩
      cases major.unique other
      exact if_pos short
  · rw [read_of_no_major (not_exists.mp some)]
    exact ⟨nofun, fun ⟨digits, major, _⟩ => absurd ⟨digits, major⟩ some⟩

theorem read_eq_error {text : String} {fault : ValueFault} :
    read text = .error fault ↔
      (∃ digits, Major text.toList digits ∧ Numeral.maxDigits < digits.length ∧
        fault = .numeral (.tooLong digits.length)) ∨
      (∀ digits, ¬ Major text.toList digits) ∧ fault = .version text := by
  by_cases some : ∃ digits, Major text.toList digits
  · obtain ⟨digits, major⟩ := some
    rw [read_of_major major]
    constructor
    · intro failed
      split at failed
      · cases failed
      · next long =>
        cases failed
        exact .inl ⟨digits, major, Nat.not_le.mp long, rfl⟩
    · rintro (⟨_, other, long, rfl⟩ | ⟨none, -⟩)
      · cases major.unique other
        exact if_neg (Nat.not_le.mpr long)
      · exact absurd major (none digits)
  · have none := not_exists.mp some
    rw [read_of_no_major none]
    constructor
    · intro failed
      cases failed
      exact .inr ⟨none, rfl⟩
    · rintro (⟨digits, major, -⟩ | ⟨-, rfl⟩)
      · exact absurd major (none digits)
      · rfl

/-! ## Recording -/

/-- What can be read has no more digits than a number may have. -/
theorem Legible.bound {v : Version} (legible : v.Legible) :
    ∃ n : Nat, v = ⟨n⟩ ∧ n < 10 ^ Numeral.maxDigits := by
  obtain ⟨text, given⟩ := legible
  obtain ⟨digits, -, short, rfl⟩ := read_eq_ok.mp given
  refine ⟨_, rfl, (Numeral.ofDigits_lt digits).trans_le ?_⟩
  exact Nat.pow_le_pow_right (by decide) short

/-- A number is read as the version of which it is the major number, if what follows it may. -/
theorem read_number {n : Nat} (short : n < 10 ^ Numeral.maxDigits) {rest : List Char}
    (ending : Ending rest) : read (String.ofList (Nat.toDigits 10 n ++ rest)) = .ok ⟨n⟩ := by
  have major : Major (String.ofList (Nat.toDigits 10 n ++ rest)).toList (Nat.toDigits 10 n) := by
    rw [String.toList_ofList]
    exact @Major.intro [] [] _ rest nofun .none Nat.toDigits_ne_nil
      (fun _ => Numeral.isDecimal_of_mem_toDigits) ending
  have length : (Nat.toDigits 10 n).length ≤ Numeral.maxDigits :=
    (Nat.length_toDigits_le_iff (by decide) (by decide)).mpr short
  rw [read_of_major major, if_pos length, Numeral.ofDigits_toDigits]

/-- A major number that was read from some text is read again, whatever follows it after a point. -/
theorem read_major {v : Version} (legible : v.Legible) (rest : String) :
    read (toString v.major ++ "." ++ rest) = .ok v := by
  obtain ⟨n, rfl, short⟩ := legible.bound
  have letters : toString (n : Int) ++ "." ++ rest =
      String.ofList (Nat.toDigits 10 n ++ '.' :: rest.toList) := by
    apply String.toList_injective
    rw [String.toList_append, String.toList_append, Numeral.toList_toString_ofNat,
      List.append_assoc]
    exact String.toList_ofList.symm
  rw [letters]
  exact read_number short (.point rest.toList)

/-- The record of a version that was read from some text is read as the same version. -/
theorem read_render {v : Version} (legible : v.Legible) : read v.render = .ok v := by
  have record : v.render = toString v.major ++ "." ++ "x" := by
    rw [render, String.append_assoc]
    rfl
  rw [record]
  exact read_major legible "x"

theorem render_ne_empty (v : Version) : v.render ≠ "" := by
  intro same
  have letters := congrArg String.toList same
  rw [render, String.toList_append] at letters
  exact absurd (List.append_eq_nil_iff.mp letters).2 (by decide)

/-- A text is that of a version just if blanks, perhaps a mark, and then digits are at its front
that end as they may; they are the only such digits, and the version is the number that they stand
for. Too many digits are refused, and so is every other text. The record of a version that was read
is read as that version again, and so is its major number with a point and anything behind it. -/
theorem version_grammar (text : String) :
    (∀ v, read text = .ok v ↔
      ∃ digits, Major text.toList digits ∧ digits.length ≤ Numeral.maxDigits ∧
        v = ⟨Numeral.ofDigits digits⟩) ∧
    (∀ digits others, Major text.toList digits → Major text.toList others → digits = others) ∧
    (∀ fault, read text = .error fault ↔
      (∃ digits, Major text.toList digits ∧ Numeral.maxDigits < digits.length ∧
        fault = .numeral (.tooLong digits.length)) ∨
      (∀ digits, ¬ Major text.toList digits) ∧ fault = .version text) ∧
    (∀ v, read text = .ok v →
      read v.render = .ok v ∧ ∀ rest, read (toString v.major ++ "." ++ rest) = .ok v) := by
  refine ⟨fun v => read_eq_ok, fun _ _ major other => major.unique other,
    fun fault => read_eq_error, fun v given => ?_⟩
  exact ⟨read_render ⟨text, given⟩, fun rest => read_major ⟨text, given⟩ rest⟩

/-- A zero of another script in front and a line end behind do not get into the record. -/
theorem record_of_padded_version :
    let text := "\u2003V\u06607\n"
    read text = .ok ⟨7⟩ ∧ render ⟨7⟩ = "7.x" ∧ read "7.x" = .ok ⟨7⟩ := by
  intro text
  have letters : text.toList = ['\u2003'] ++ (['V'] ++ (['\u0660', '7'] ++ ['\n'])) := by decide
  have blank : isBlank '\u2003' = true := by decide
  have decimal : isDecimal '\u0660' = true ∧ isDecimal '7' = true := by decide
  have major : Major text.toList ['\u0660', '7'] := by
    rw [letters]
    exact .intro (by simp [blank]) .capital (by decide) (by simp [decimal]) .lineEnd
  obtain ⟨grammar, -, -, back⟩ := version_grammar text
  have given : read text = .ok ⟨7⟩ := (grammar ⟨7⟩).mpr ⟨_, major, by decide, by decide⟩
  exact ⟨given, by decide, (back _ given).1⟩

end Version

end Clearance
