import Clearance.Text.Lower

/-!
# Words in small letters

Two letters outside of ASCII turn into letters of ASCII: `İ` into an `i` and a dot, and the Kelvin
sign into a `k`. A text comes to a word that has neither of these in it only if it is that word,
spelt in small or in capital letters of ASCII.

Results:
1. `lowerLetter_of_ascii`, `lowerLetter_of_high`: what a single letter turns into.
2. `lower_eq_iff`, `lower_mem_iff`: which texts are a given word, or one of several, in small
   letters.
-/

namespace Clearance.Text

/-- A character of ASCII that no character outside of it turns into. -/
def Plain (c : Char) : Prop :=
  c.toNat < 128 ∧ c ≠ 'i' ∧ c ≠ 'k'

instance : DecidablePred Plain := fun _ => inferInstanceAs (Decidable (_ ∧ _))

theorem not_plain_of_high {c : Char} (high : 128 ≤ c.toNat) : ¬ Plain c :=
  fun plain => absurd plain.1 (by omega)

theorem plain_of_all {s : List Char} (all : s.all (fun c => decide (Plain c)) = true) :
    ∀ c ∈ s, Plain c :=
  fun c present => of_decide_eq_true (List.all_eq_true.mp all c present)

/-! ## Letters -/

theorem lowerLetter_of_ascii {c : Char} (ascii : c.toNat < 128) :
    lowerLetter c = [c.toLower] := by
  have all : ∀ n < 128, lowerLetter (Char.ofNat n) = [(Char.ofNat n).toLower] := by
    decide +kernel
  have same := all c.toNat ascii
  rwa [Char.ofNat_toNat] at same

theorem toLower_of_high {c : Char} (high : 128 ≤ c.toNat) : c.toLower = c := by
  refine dif_neg fun capital => ?_
  have low : c.toNat ≤ 0x5A := capital.2
  omega

/-- Every run leads to characters past ASCII, except for the capital letters of ASCII itself and the
Kelvin sign. -/
theorem caseRuns_lead : ∀ r ∈ caseRuns,
    r.last < 128 ∨
    128 ≤ r.first + r.shift ∧ (r.last + r.shift < 0xD800 ∨
      0xDFFF < r.first + r.shift ∧ r.last + r.shift < 0x110000) ∨
    r.first = 0x212A ∧ r.last = 0x212A ∧ r.shift = -8383 := by
  decide +kernel

theorem not_plain_ofNat {n : Nat} (high : 128 ≤ n) (valid : n.isValidChar) :
    ¬ Plain (Char.ofNat n) := by
  apply not_plain_of_high
  rw [Char.ofNat, dif_pos valid]
  exact high

theorem lowerLetter_of_high {c : Char} (high : 128 ≤ c.toNat) :
    ∃ x rest, lowerLetter c = x :: rest ∧ ¬ Plain x := by
  unfold lowerLetter
  split
  · exact ⟨'i', _, rfl, by decide⟩
  · split
    · next r found =>
      refine ⟨_, [], rfl, ?_⟩
      have covered := List.find?_some found
      simp only [CaseRun.covers, Bool.and_eq_true, decide_eq_true_eq] at covered
      obtain ⟨⟨first, last⟩, -⟩ := covered
      obtain low | ⟨past, whole⟩ | ⟨sign, same, shift⟩ :=
        caseRuns_lead r (List.mem_of_find?_eq_some found)
      · -- The capital letters of ASCII do not reach this far.
        omega
      · exact not_plain_ofNat (by omega) (by unfold Nat.isValidChar; omega)
      · have kelvin : c.toNat + r.shift = 0x6B := by omega
        rw [kelvin]
        decide
    · exact ⟨c, [], rfl, not_plain_of_high high⟩

/-! ## Words -/

/-- What a letter turns into wherever it stands: the small letter of ASCII, or something that begins
no word of plain letters. -/
theorem lowerAfter_cons (before : List Char) (c : Char) (rest : List Char) :
    ∃ here, lowerAfter before (c :: rest) = here ++ lowerAfter (c :: before) rest ∧
      (here = [c.toLower] ∨ ¬ Plain c.toLower ∧ ∃ x more, here = x :: more ∧ ¬ Plain x) := by
  refine ⟨_, rfl, ?_⟩
  by_cases ascii : c.toNat < 128
  · have other : ¬ (c.toNat == 0x3A3) = true := by
      simp only [beq_iff_eq]
      omega
    rw [if_neg other]
    exact .inl (lowerLetter_of_ascii ascii)
  · have high : 128 ≤ c.toNat := by omega
    rw [toLower_of_high high]
    refine .inr ⟨not_plain_of_high high, ?_⟩
    split
    · split
      · exact ⟨'ς', [], rfl, by decide⟩
      · exact ⟨'σ', [], rfl, by decide⟩
    · exact lowerLetter_of_high high

theorem lowerAfter_eq_iff {word : List Char} (plain : ∀ w ∈ word, Plain w) {s : List Char}
    (before : List Char) : lowerAfter before s = word ↔ s.map Char.toLower = word := by
  induction s generalizing before word with
  | nil => rfl
  | cons c rest ih =>
    obtain ⟨here, splits, single | ⟨strange, x, more, rfl, odd⟩⟩ := lowerAfter_cons before c rest
    · cases word with
      | nil => simp [splits, single]
      | cons w ws =>
        have later := ih (fun v among => plain v (List.mem_cons_of_mem w among)) (c :: before)
        simp [splits, single, later]
    · -- Neither text begins as the word does.
      refine iff_of_false (fun same => ?_) (fun same => ?_)
      · rw [splits] at same
        exact odd (plain x (same ▸ List.mem_cons_self))
      · exact strange (plain _ (same ▸ List.mem_cons_self))

/-- A text comes to a word of plain letters exactly if it is that word, spelt in small or in capital
letters of ASCII. -/
theorem lower_eq_iff {word : String} (plain : ∀ c ∈ word.toList, Plain c) {s : List Char} :
    String.ofList (lower s) = word ↔ String.ofList (s.map Char.toLower) = word := by
  rw [← String.toList_inj, ← String.toList_inj, String.toList_ofList, String.toList_ofList]
  exact lowerAfter_eq_iff plain []

/-- The same for several words. -/
theorem lower_mem_iff {words : List String} (plain : ∀ word ∈ words, ∀ c ∈ word.toList, Plain c)
    {s : List Char} :
    String.ofList (lower s) ∈ words ↔ String.ofList (s.map Char.toLower) ∈ words := by
  constructor
  · intro known
    have same := (lower_eq_iff (plain _ known)).mp rfl
    rwa [same]
  · intro known
    have same := (lower_eq_iff (plain _ known)).mpr rfl
    rwa [same]

end Clearance.Text
