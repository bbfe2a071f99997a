import Clearance.Proofs.Text.Trim
import Clearance.Text.CommaList

/-!
# Values and their comma lists

Values are written one after the other with commas between them, and may have blanks around them.
Where nothing but blanks stands between two commas, or at an end, there is no value. What is read is
told here by how it is written, so that a list which is read can be written and read again.

Results:
1. `Value`, `Entries`, `Lists`: what can be a value, and the texts that list given values.
2. `collect_of_entries`, `entries_of_commaless`: the entries of a text hold what is collected from
   them.
3. `read_eq_iff`: a text lists just the values that are read from it.
4. `read_append`, `read_intercalate`: lists behind each other, and lists without anything else.
5. `comma_lists`: all of this, with the list that is written again.
-/

namespace Clearance.Text.CommaList

/-! ## Lists as they are written -/

/-- A value that a list can hold: there is something in it, no blank at its ends and no comma. -/
structure Value (v : List Char) : Prop where
  nonempty : v ≠ []
  solid : Solid v
  commaless : ',' ∉ v

instance (v : List Char) : Decidable (Value v) :=
  decidable_of_iff (v ≠ [] ∧ Solid v ∧ ',' ∉ v)
    ⟨fun own => ⟨own.1, own.2.1, own.2.2⟩, fun own => ⟨own.nonempty, own.solid, own.commaless⟩⟩

/-- The entries hold these values in order: every value stands in an entry of its own, with any
blanks around it, and all other entries are blank. -/
inductive Entries : List (List Char) → List (List Char) → Prop
  | none : Entries [] []
  | blank {entry : List Char} {entries held : List (List Char)}
      (blank : ∀ c ∈ entry, isBlank c = true) (later : Entries entries held) :
      Entries (entry :: entries) held
  | value {front v back : List Char} {entries held : List (List Char)} (own : Value v)
      (blankFront : ∀ c ∈ front, isBlank c = true) (blankBack : ∀ c ∈ back, isBlank c = true)
      (later : Entries entries held) : Entries ((front ++ v ++ back) :: entries) (v :: held)

/-- The text lists these values: between its commas are entries that hold them. -/
def Lists (s : String) (held : List String) : Prop :=
  ∃ entries : List String, s = ",".intercalate entries ∧
    Entries (entries.map String.toList) (held.map String.toList)

theorem comma_not_blank {blanks : List Char} (blank : ∀ c ∈ blanks, isBlank c = true) :
    ',' ∉ blanks := by
  intro present
  have comma : isBlank ',' = true := blank ',' present
  cases comma

namespace Entries

variable {entries held : List (List Char)}

theorem commaless (written : Entries entries held) : ∀ entry ∈ entries, ',' ∉ entry := by
  induction written with
  | none => nofun
  | blank blank _ ih => exact List.forall_mem_cons.mpr ⟨comma_not_blank blank, ih⟩
  | value own blankFront blankBack _ ih =>
    refine List.forall_mem_cons.mpr ⟨fun present => ?_, ih⟩
    rcases List.mem_append.mp present with present | present
    · rcases List.mem_append.mp present with present | present
      · exact comma_not_blank blankFront present
      · exact own.commaless present
    · exact comma_not_blank blankBack present

theorem values (written : Entries entries held) : ∀ v ∈ held, Value v := by
  induction written with
  | none => nofun
  | blank _ _ ih => exact ih
  | value own _ _ _ ih => exact List.forall_mem_cons.mpr ⟨own, ih⟩

/-- Values alone are entries that hold them. -/
theorem of_values (own : ∀ v ∈ held, Value v) : Entries held held := by
  induction held with
  | nil => exact .none
  | cons v rest ih =>
    obtain ⟨first, others⟩ := List.forall_mem_cons.mp own
    have entry : Entries (([] ++ v ++ []) :: rest) (v :: rest) :=
      .value first nofun nofun (ih others)
    simpa using entry

end Entries

/-! ## What is collected from entries -/

/-- What is left of the entries without blanks, if anything. -/
def collect (entries : List (List Char)) : List (List Char) :=
  (entries.map trim).filter (· ≠ [])

theorem collect_cons (entry : List Char) (entries : List (List Char)) :
    collect (entry :: entries) =
      if trim entry = [] then collect entries else trim entry :: collect entries := by
  unfold collect
  rw [List.map_cons, List.filter_cons]
  by_cases empty : trim entry = [] <;> simp [empty]

theorem collect_of_entries {entries held : List (List Char)} (written : Entries entries held) :
    collect entries = held := by
  induction written with
  | none => rfl
  | blank blank _ ih => rw [collect_cons, if_pos (trim_eq_nil_iff.mpr blank), ih]
  | @value front v back _ _ own blankFront blankBack _ ih =>
    have trimmed : trim (front ++ v ++ back) = v :=
      trim_eq_iff.mpr ⟨own.solid, front, back, rfl, blankFront, blankBack⟩
    rw [collect_cons, trimmed, if_neg own.nonempty, ih]

theorem entries_of_commaless {entries : List (List Char)}
    (commaless : ∀ entry ∈ entries, ',' ∉ entry) : Entries entries (collect entries) := by
  induction entries with
  | nil => exact .none
  | cons entry rest ih =>
    obtain ⟨first, others⟩ := List.forall_mem_cons.mp commaless
    rw [collect_cons]
    split
    · next empty => exact .blank (trim_eq_nil_iff.mp empty) (ih others)
    · next something =>
      obtain ⟨front, back, whole, blankFront, blankBack⟩ := blanks_around_trim entry
      have own : Value (trim entry) := by
        refine ⟨something, solid_trim entry, fun present => first ?_⟩
        rw [whole]
        exact List.mem_append_left _ (List.mem_append_right _ present)
      have held := Entries.value own blankFront blankBack (ih others)
      rwa [← whole] at held

/-- No comma is left between commas. -/
theorem commaless_splitOn (s : List Char) : ∀ entry ∈ s.splitOn ',', ',' ∉ entry := by
  by_cases comma : ',' ∈ s
  · obtain ⟨first, rest, same, fresh⟩ := List.eq_append_cons_of_mem comma
    have shorter : rest.length < s.length := by
      rw [same]
      simp
      omega
    rw [same, List.splitOn_append_cons_self_of_not_mem fresh]
    exact List.forall_mem_cons.mpr ⟨fresh, commaless_splitOn rest⟩
  · rw [List.splitOn_eq_singleton comma]
    exact List.forall_mem_singleton.mpr comma
termination_by s.length

/-! ## Reading -/

theorem values_eq (s : List Char) : values s = collect (s.splitOn ',') := rfl

theorem values_eq_iff {s : List Char} {held : List (List Char)} :
    values s = held ↔ ∃ entries, s = [','].intercalate entries ∧ Entries entries held := by
  constructor
  · rintro rfl
    exact ⟨s.splitOn ',', (List.intercalate_splitOn ',').symm,
      entries_of_commaless (commaless_splitOn s)⟩
  · rintro ⟨entries, rfl, written⟩
    rw [values_eq]
    cases entries with
    | nil =>
      cases written
      rfl
    | cons entry rest =>
      rw [List.splitOn_intercalate ',' written.commaless (List.cons_ne_nil entry rest)]
      exact collect_of_entries written

theorem toList_read (s : String) : (read s).map String.toList = values s.toList := by
  simp [read]

theorem read_eq_iff {s : String} {held : List String} : read s = held ↔ Lists s held := by
  have letters : read s = held ↔ values s.toList = held.map String.toList := by
    rw [← toList_read]
    exact (List.map_inj_right fun _ _ => String.toList_inj.mp).symm
  rw [letters, values_eq_iff]
  constructor
  · rintro ⟨entries, whole, written⟩
    refine ⟨entries.map String.ofList, ?_, by simpa using written⟩
    rw [← String.toList_inj, String.toList_intercalate, whole]
    simp
  · rintro ⟨entries, rfl, written⟩
    exact ⟨entries.map String.toList, String.toList_intercalate, written⟩

/-- What is read can be a value. -/
theorem value_of_read {s v : String} (present : v ∈ read s) : Value v.toList := by
  obtain ⟨entries, -, written⟩ := read_eq_iff.mp (rfl : read s = read s)
  exact written.values v.toList (List.mem_map_of_mem present)

/-- Of two lists with a comma between them, one is read after the other. -/
theorem read_append (s t : String) : read (s ++ "," ++ t) = read s ++ read t := by
  have letters : (s ++ "," ++ t).toList = s.toList ++ ',' :: t.toList := by simp
  unfold read values
  rw [letters, List.splitOn_append_cons_self, List.map_append, List.filter_append, List.map_append]

/-- Values that are written with nothing but commas between them are read as they are. -/
theorem read_intercalate {held : List String} (own : ∀ v ∈ held, Value v.toList) :
    read (",".intercalate held) = held :=
  read_eq_iff.mpr ⟨held, rfl, Entries.of_values (List.forall_mem_map.mpr own)⟩

/-- From a text just those values are read that it lists, whatever blanks and blank entries stand
around and between them. All that is read can be a value. Lists with a comma between them are read
one after the other, values are read as they were written, and so is a list that was read before. -/
theorem comma_lists (s : String) :
    (∀ held, read s = held ↔ Lists s held) ∧ (∀ v ∈ read s, Value v.toList) ∧
      (∀ t, read (s ++ "," ++ t) = read s ++ read t) ∧
      (∀ held : List String, (∀ v ∈ held, Value v.toList) →
        read (",".intercalate held) = held) ∧
      read (",".intercalate (read s)) = read s :=
  ⟨fun _ => read_eq_iff, fun _ => value_of_read, read_append s, fun _ => read_intercalate,
    read_intercalate fun _ => value_of_read⟩

/-- Blanks of every kind, an entry without anything in it and a comma at the end do not count. -/
theorem spaced_list_read :
    Lists "\u00a0a b\u3000,,c\t," ["a b", "c"] ∧ read "\u00a0a b\u3000,,c\t," = ["a b", "c"] ∧
      (∀ v ∈ ["a b", "c"], Value v.toList) ∧
      read (",".intercalate ["a b", "c"]) = ["a b", "c"] := by
  have first : Value "a b".toList := by decide
  have second : Value "c".toList := by decide
  have own : ∀ v ∈ ["a b", "c"], Value v.toList :=
    List.forall_mem_cons.mpr ⟨first, List.forall_mem_singleton.mpr second⟩
  have written : Entries ["\u00a0a b\u3000".toList, [], "c\t".toList, []]
      ["a b".toList, "c".toList] :=
    @Entries.value ['\u00a0'] _ ['\u3000'] _ _ first (List.forall_mem_singleton.mpr rfl)
      (List.forall_mem_singleton.mpr rfl)
      (.blank nofun (@Entries.value [] _ ['\t'] _ _ second nofun
        (List.forall_mem_singleton.mpr rfl) (.blank nofun .none)))
  have lists : Lists "\u00a0a b\u3000,,c\t," ["a b", "c"] :=
    ⟨["\u00a0a b\u3000", "", "c\t", ""], by decide, written⟩
  exact ⟨lists, ((comma_lists _).1 _).mpr lists, own, (comma_lists "").2.2.2.1 _ own⟩

end Clearance.Text.CommaList
