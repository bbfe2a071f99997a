import Clearance.Proofs.Text.Trim
import Clearance.Settings.Basic

/-!
# Resources and their indices

A resource names an index and perhaps, behind a slash, something in it. Reading and writing may have
resources of their own; where one of them is missing the common resource stands in for it. A text
that is empty counts as missing. The name of the index may be empty, as it is where no resource is
given at all.

Results:
1. `stated_eq`, `stated_eq_none`: which texts count as missing.
2. `getD_indexOf`, `stated_indexOf`: the name of the index of a resource, given or not.
3. `Taken`, `Heads`, `NamesIndex`: the resource that counts, and the index that it names, told apart
   from how they are found.
4. `namesIndex_iff`: this is the index that is found, and there is no other one.
-/

namespace Clearance

theorem stated_eq (text : Option String) :
    stated text = if text.getD "" = "" then none else some (text.getD "") := by
  cases text with
  | none => rfl
  | some own => by_cases empty : own = "" <;> simp [stated, empty]

theorem stated_eq_none {text : Option String} :
    stated text = none ↔ ¬ ∃ own, text = some own ∧ own ≠ "" := by
  cases text with
  | none => simp [stated]
  | some own => simp [stated, Option.filter_eq_none_iff]

namespace Settings

open Text (Solid isBlank trim trim_eq_iff)

/-- The name of the index in a resource: of its text without the blanks around it, what stands
before the first slash. -/
def indexName (resource : Option String) : String :=
  String.ofList ((trim (resource.getD "").toList).takeWhile (· != '/'))

theorem getD_indexOf (resource : Option String) :
    (indexOf resource).getD "" = indexName resource := by
  rw [indexOf, indexName, stated_eq]
  by_cases empty : resource.getD "" = ""
  · rw [if_pos empty, empty]
    rfl
  · rw [if_neg empty]
    rfl

theorem stated_indexOf (resource : Option String) :
    stated (indexOf resource) =
      if indexName resource = "" then none else some (indexName resource) := by
  rw [stated_eq, getD_indexOf]

/-! ## Which resource counts -/

/-- The resource that counts for a use with a resource of its own, and its text. -/
inductive Taken (own common : Option String) : String → Prop
  | own {text : String} (given : own = some text) (filled : text ≠ "") : Taken own common text
  | common {text : String} (silent : ∀ text, own = some text → text = "")
      (given : common = some text) : Taken own common text
  | neither (silent : ∀ text, own = some text → text = "") (missing : common = none) :
      Taken own common ""

theorem stated_of_filled {own : Option String} {text : String} (given : own = some text)
    (filled : text ≠ "") : stated own = some text := by
  rw [stated_eq, given]
  exact if_neg filled

theorem taken_iff {own common : Option String} {text : String} :
    Taken own common text ↔ text = ((stated own).or common).getD "" := by
  constructor
  · intro taken
    cases taken with
    | own given filled =>
      rw [stated_of_filled given filled]
      rfl
    | common silent given | neither silent given =>
      have missing : stated own = none :=
        stated_eq_none.mpr fun ⟨text, own, filled⟩ => filled (silent text own)
      rw [missing, given]
      rfl
  · rintro rfl
    cases found : stated own with
    | some text =>
      obtain ⟨given, filled⟩ := Option.filter_eq_some_iff.mp found
      exact .own given (of_decide_eq_true filled)
    | none =>
      have silent : ∀ text, own = some text → text = "" := fun text given =>
        Decidable.byContradiction fun filled => stated_eq_none.mp found ⟨text, given, filled⟩
      cases given : common with
      | some text => exact .common silent rfl
      | none => exact .neither silent rfl

/-! ## Which index it names -/

/-- The text begins with the index: blanks apart, it is the index, or a slash follows behind it that
is the first one. -/
def Heads (text index : List Char) : Prop :=
  ∃ front body back, text = front ++ body ++ back ∧ Solid body ∧
    (∀ c ∈ front, isBlank c = true) ∧ (∀ c ∈ back, isBlank c = true) ∧
    '/' ∉ index ∧ (body = index ∨ ∃ rest, body = index ++ '/' :: rest)

theorem heads_iff {text index : List Char} :
    Heads text index ↔ index = (trim text).takeWhile (· != '/') := by
  constructor
  · rintro ⟨front, body, back, whole, solid, blankFront, blankBack, slashless, ending⟩
    rw [trim_eq_iff.mpr ⟨solid, front, back, whole, blankFront, blankBack⟩]
    rcases ending with rfl | ⟨rest, rfl⟩
    · exact (Text.span_none slashless).1.symm
    · exact (Text.span_at slashless rest).1.symm
  · rintro rfl
    obtain ⟨solid, front, back, whole, blankFront, blankBack⟩ :=
      trim_eq_iff.mp (Eq.refl (trim text))
    refine ⟨front, trim text, back, whole, solid, blankFront, blankBack, fun slash => ?_, ?_⟩
    · have other := List.mem_takeWhile_imp slash
      cases other
    · have parts : (trim text).takeWhile (· != '/') ++ (trim text).dropWhile (· != '/') =
          trim text := List.takeWhile_append_dropWhile
      cases rest : (trim text).dropWhile (· != '/') with
      | nil =>
        rw [rest, List.append_nil] at parts
        exact .inl parts.symm
      | cons c rest' =>
        have slash : c = '/' := by
          have first := List.head?_dropWhile_not (· != '/') (trim text)
          rw [rest] at first
          exact not_not.mp (mt bne_iff_ne.mpr (by simpa using first))
        rw [rest, slash] at parts
        exact .inr ⟨rest', parts.symm⟩

/-- The index that a use with a resource of its own goes to. -/
def NamesIndex (own common : Option String) (index : String) : Prop :=
  ∃ text, Taken own common text ∧ Heads text.toList index.toList

/-- There is exactly one index, and it is the one that is found. -/
theorem namesIndex_iff {own common : Option String} {index : String} :
    NamesIndex own common index ↔ index = indexName ((stated own).or common) := by
  unfold NamesIndex
  simp only [taken_iff, exists_eq_left, heads_iff, indexName]
  exact ⟨fun same => by rw [← same, String.ofList_toList],
    fun same => by rw [same, String.toList_ofList]⟩

end Settings

end Clearance
