/-!
# First occurrences

A list that keeps the first occurrence of every value and leaves out the later ones. Working sets
and the addresses of nodes are such lists.

Results:
1. `nodup_eraseDups`, `eraseDups_of_nodup`: what is left holds every value once, and nothing is left
   out of a list that does so already.
2. `filter_eraseDups`: leaving out values by a condition and leaving out later occurrences commute.
3. `eraseDups_append_left`, `eraseDups_append_known`: what later occurrences are does not depend on
   how often they were left out before, and appending known values changes nothing.
-/

namespace Clearance

variable {α : Type} [BEq α] [LawfulBEq α]

theorem nodup_eraseDups (xs : List α) : xs.eraseDups.Nodup := by
  cases xs with
  | nil => simp
  | cons x rest =>
    rw [List.eraseDups_cons, List.nodup_cons]
    refine ⟨fun present => ?_, nodup_eraseDups _⟩
    have differs := (List.mem_filter.mp (List.mem_eraseDups.mp present)).2
    simp at differs
termination_by xs.length
decreasing_by exact Nat.lt_succ_of_le (List.length_filter_le _ _)

theorem eraseDups_of_nodup {xs : List α} (distinct : xs.Nodup) : xs.eraseDups = xs := by
  induction xs with
  | nil => rfl
  | cons x rest ih =>
    obtain ⟨fresh, distinctRest⟩ := List.nodup_cons.mp distinct
    have others : (rest.filter fun y => !y == x) = rest := by
      refine List.filter_eq_self.mpr fun y present => ?_
      have differs : y ≠ x := fun same => fresh (same ▸ present)
      simpa using differs
    rw [List.eraseDups_cons, others, ih distinctRest]

/-- A condition keeps or drops all occurrences of a value alike, so that the first occurrence of a
value that it keeps stays the first one. -/
theorem filter_eraseDups (p : α → Bool) (xs : List α) :
    xs.eraseDups.filter p = (xs.filter p).eraseDups := by
  cases xs with
  | nil => rfl
  | cons x rest =>
    have shorter := filter_eraseDups p (rest.filter fun y => !y == x)
    -- The first value is kept or dropped along with its later occurrences.
    cases kept : p x with
    | true =>
      rw [List.eraseDups_cons, List.filter_cons_of_pos kept, List.filter_cons_of_pos kept,
        List.eraseDups_cons, shorter, List.filter_filter, List.filter_filter]
      simp only [Bool.and_comm]
    | false =>
      have dropped : ¬ p x = true := by simp [kept]
      have same : (rest.filter fun y => !y == x).filter p = rest.filter p := by
        rw [List.filter_filter]
        refine List.filter_congr fun y _ => ?_
        cases keeps : p y with
        | false => simp
        | true =>
          have differs : y ≠ x := fun e => dropped (e ▸ keeps)
          simpa using differs
      rw [List.eraseDups_cons, List.filter_cons_of_neg dropped, List.filter_cons_of_neg dropped,
        shorter, same]
termination_by xs.length
decreasing_by exact Nat.lt_succ_of_le (List.length_filter_le _ _)

theorem removeAll_eraseDups (xs ys : List α) : ys.removeAll xs.eraseDups = ys.removeAll xs := by
  refine List.filter_congr fun y _ => ?_
  rw [Bool.eq_iff_iff]
  simp

theorem eraseDups_append_left (xs ys : List α) :
    (xs.eraseDups ++ ys).eraseDups = (xs ++ ys).eraseDups := by
  rw [List.eraseDups_append, List.eraseDups_append, removeAll_eraseDups,
    eraseDups_of_nodup (nodup_eraseDups xs)]

theorem eraseDups_append_known {xs ys : List α} (known : ∀ y ∈ ys, y ∈ xs) :
    (xs ++ ys).eraseDups = xs.eraseDups := by
  have none : ys.removeAll xs = [] := by
    refine List.filter_eq_nil_iff.mpr fun y present => ?_
    simp [known y present]
  rw [List.eraseDups_append, none, List.eraseDups_nil, List.append_nil]

end Clearance
