import Clearance.Text.Blank
import Mathlib.Data.List.DropRight
import Mathlib.Data.List.TakeWhile

/-!
# Trimmed texts

What is left of a text when characters of one kind are dropped from its ends is the one part of it
that does not end with such a character and has no others around it.

Results:
1. `dropWhile_eq_iff`, `rdropWhile_eq_iff`, `span_append`: dropping at the front, and at the back.
2. `span_at`, `span_none`, `behind_last`, `exists_last`: a text and the first or the last place of a
   character in it.
3. `trim_eq_iff`: the trimmed text, told without trimming.
4. `solid_trim`, `blanks_around_trim`, `trim_eq_nil_iff`, `trim_between`, `mem_takeWhile_trim`: its
   consequences.
-/

namespace Clearance.Text

section Dropping

variable {α : Type} {p : α → Bool} {s t : List α}

theorem dropWhile_eq_iff :
    s.dropWhile p = t ↔
      (∀ c ∈ t.head?, p c = false) ∧ ∃ front, s = front ++ t ∧ ∀ c ∈ front, p c = true := by
  constructor
  · rintro rfl
    refine ⟨fun c first => ?_, s.takeWhile p, List.takeWhile_append_dropWhile.symm,
      fun c present => List.mem_takeWhile_imp present⟩
    have stops := List.head?_dropWhile_not p s
    rw [Option.mem_def.mp first] at stops
    exact stops
  · rintro ⟨stops, front, rfl, drops⟩
    rw [List.dropWhile_append_of_pos drops]
    cases t with
    | nil => rfl
    | cons c rest => exact List.dropWhile_cons_of_neg (by simp [stops c rfl])

/-- A run of characters of one kind ends where one of another kind follows. -/
theorem span_append (run : ∀ c ∈ s, p c = true) (ends : ∀ c ∈ t.head?, p c = false) :
    (s ++ t).takeWhile p = s ∧ (s ++ t).dropWhile p = t := by
  have dropped : (s ++ t).dropWhile p = t := dropWhile_eq_iff.mpr ⟨ends, s, rfl, run⟩
  have whole : (s ++ t).takeWhile p ++ (s ++ t).dropWhile p = s ++ t :=
    List.takeWhile_append_dropWhile
  rw [dropped] at whole
  exact ⟨List.append_cancel_right whole, dropped⟩

theorem rdropWhile_eq_iff :
    s.rdropWhile p = t ↔
      (∀ c ∈ t.getLast?, p c = false) ∧ ∃ back, s = t ++ back ∧ ∀ c ∈ back, p c = true := by
  rw [List.rdropWhile, List.reverse_eq_iff, dropWhile_eq_iff, List.head?_reverse]
  constructor
  · rintro ⟨stops, back, same, drops⟩
    refine ⟨stops, back.reverse, ?_, fun c present => drops c (List.mem_reverse.mp present)⟩
    rw [← List.reverse_reverse s, same, List.reverse_append, List.reverse_reverse]
  · rintro ⟨stops, back, rfl, drops⟩
    exact ⟨stops, back.reverse, List.reverse_append, fun c present =>
      drops c (List.mem_reverse.mp present)⟩

end Dropping

section Places

variable {c : Char} {front s : List Char}

/-- A text up to a character, and from it on. -/
theorem span_at (fresh : c ∉ front) (rest : List Char) :
    (front ++ c :: rest).takeWhile (· != c) = front ∧
      (front ++ c :: rest).dropWhile (· != c) = c :: rest := by
  have before : ∀ d ∈ front, (d != c) = true := fun d present =>
    bne_iff_ne.mpr fun same => fresh (same ▸ present)
  exact span_append before (by simp)

theorem span_none (fresh : c ∉ s) :
    s.takeWhile (· != c) = s ∧ s.dropWhile (· != c) = [] := by
  have before : ∀ d ∈ s, (d != c) = true := fun d present =>
    bne_iff_ne.mpr fun same => fresh (same ▸ present)
  exact ⟨List.takeWhile_eq_self_iff.mpr before, List.dropWhile_eq_nil_iff.mpr before⟩

/-- What is behind the last place of a character is found from the end of the text. -/
theorem behind_last {rest : List Char} (fresh : c ∉ rest) (front : List Char) :
    ((front ++ c :: rest).reverse.takeWhile (· != c)).reverse = rest := by
  have turned : (front ++ c :: rest).reverse = rest.reverse ++ c :: front.reverse := by simp
  have fresh' : c ∉ rest.reverse := fun present => fresh (List.mem_reverse.mp present)
  rw [turned, (span_at fresh' front.reverse).1, List.reverse_reverse]

theorem exists_last (present : c ∈ s) : ∃ front rest, s = front ++ c :: rest ∧ c ∉ rest := by
  obtain ⟨back, front, turned, fresh⟩ :=
    List.eq_append_cons_of_mem (List.mem_reverse.mpr present)
  refine ⟨front.reverse, back.reverse, ?_, fun there => fresh (List.mem_reverse.mp there)⟩
  rw [← List.reverse_reverse s, turned]
  simp

end Places

/-- The text neither starts nor ends with a blank. -/
def Solid (s : List Char) : Prop :=
  (∀ c ∈ s.head?, isBlank c = false) ∧ ∀ c ∈ s.getLast?, isBlank c = false

instance (s : List Char) : Decidable (Solid s) :=
  decidable_of_iff
    (s.head?.all (fun c => !isBlank c) = true ∧ s.getLast?.all (fun c => !isBlank c) = true)
    (by simp [Solid, Option.all_eq_true])

/-- The trimmed text is the one without blanks at its ends that stands between blanks. -/
theorem trim_eq_iff {s t : List Char} :
    trim s = t ↔ Solid t ∧ ∃ front back, s = front ++ t ++ back ∧
      (∀ c ∈ front, isBlank c = true) ∧ ∀ c ∈ back, isBlank c = true := by
  change (s.dropWhile isBlank).rdropWhile isBlank = t ↔ _
  rw [rdropWhile_eq_iff]
  constructor
  · rintro ⟨last, back, rest, blankBack⟩
    obtain ⟨first, front, rfl, blankFront⟩ := dropWhile_eq_iff.mp rest
    refine ⟨⟨fun c start => first c ?_, last⟩, front, back, (List.append_assoc ..).symm,
      blankFront, blankBack⟩
    rw [Option.mem_def, List.head?_append, Option.mem_def.mp start]
    rfl
  · rintro ⟨⟨first, last⟩, front, back, rfl, blankFront, blankBack⟩
    cases t with
    | nil =>
      have blank : ∀ c ∈ front ++ [] ++ back, isBlank c = true := by
        simpa [or_imp, forall_and] using ⟨blankFront, blankBack⟩
      exact ⟨nofun, [], List.dropWhile_eq_nil_iff.mpr blank, nofun⟩
    | cons c rest =>
      exact ⟨last, back, dropWhile_eq_iff.mpr ⟨first, front, List.append_assoc .., blankFront⟩,
        blankBack⟩

theorem solid_trim (s : List Char) : Solid (trim s) :=
  (trim_eq_iff.mp rfl).1

theorem blanks_around_trim (s : List Char) : ∃ front back, s = front ++ trim s ++ back ∧
    (∀ c ∈ front, isBlank c = true) ∧ ∀ c ∈ back, isBlank c = true :=
  (trim_eq_iff.mp rfl).2

theorem trim_eq_nil_iff {s : List Char} : trim s = [] ↔ ∀ c ∈ s, isBlank c = true := by
  rw [trim_eq_iff]
  constructor
  · rintro ⟨-, front, back, rfl, blankFront, blankBack⟩
    simpa [or_imp, forall_and] using ⟨blankFront, blankBack⟩
  · intro blank
    exact ⟨⟨nofun, nofun⟩, s, [], by simp, blank, nofun⟩

/-- Blanks around a text are dropped with those that it has. -/
theorem trim_between {front s back : List Char} (blankFront : ∀ c ∈ front, isBlank c = true)
    (blankBack : ∀ c ∈ back, isBlank c = true) : trim (front ++ s ++ back) = trim s := by
  obtain ⟨own, own', whole, blank, blank'⟩ := blanks_around_trim s
  refine trim_eq_iff.mpr ⟨solid_trim s, front ++ own, own' ++ back, ?_, ?_, ?_⟩
  · conv_lhs => rw [whole]
    simp only [List.append_assoc]
  · exact fun c present => (List.mem_append.mp present).elim (blankFront c) (blank c)
  · exact fun c present => (List.mem_append.mp present).elim (blank' c) (blankBack c)

/-- Up to a place that is no blank, a text and the trimmed one hold the same characters, blanks
apart. -/
theorem mem_takeWhile_trim {p : Char → Bool} (passes : ∀ d, isBlank d = true → p d = true)
    {c : Char} (solid : isBlank c = false) (s : List Char) :
    c ∈ (trim s).takeWhile p ↔ c ∈ s.takeWhile p := by
  obtain ⟨front, back, whole, blankFront, blankBack⟩ := blanks_around_trim s
  have apart {blanks : List Char} (blank : ∀ d ∈ blanks, isBlank d = true) : c ∉ blanks := by
    intro present
    rw [blank c present] at solid
    cases solid
  have apart' : c ∉ back.takeWhile p := fun present =>
    apart blankBack (List.takeWhile_subset p present)
  conv_rhs => rw [whole]
  rw [List.append_assoc,
    List.takeWhile_append_of_pos fun d present => passes d (blankFront d present),
    List.mem_append, List.takeWhile_append]
  split
  · next all =>
    have kept : (trim s).takeWhile p = trim s :=
      (List.takeWhile_prefix p).eq_of_length all
    simp [kept, apart blankFront, apart']
  · simp [apart blankFront]

end Clearance.Text
