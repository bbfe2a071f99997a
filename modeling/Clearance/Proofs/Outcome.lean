/-!
# Faults of computations that may fail

Results:
1. `ok_ne_error`, `map_eq_error`: a result that is only told in another way has the same faults.
2. `mapError_eq_ok`, `mapError_eq_error`: faults that are told in another way.
3. `mapM_eq_error`: of many inputs the first one that is refused counts.
4. `exists_mapM_ok`, `mem_of_mapM_ok`: many inputs are read if every one of them is, and no other
  results come of them.
-/

namespace Clearance

theorem ok_ne_error {ε α : Type} {a : α} {fault : ε} : (Except.ok a : Except ε α) ≠ .error fault :=
  nofun

theorem map_eq_error {ε α β : Type} {x : Except ε α} {f : α → β} {fault : ε} :
    x.map f = .error fault ↔ x = .error fault := by
  cases x with
  | error other => exact ⟨fun same => by cases same; rfl, fun same => by cases same; rfl⟩
  | ok a => exact ⟨nofun, nofun⟩

theorem mapError_eq_ok {ε δ α : Type} {x : Except ε α} {f : ε → δ} {a : α} :
    x.mapError f = .ok a ↔ x = .ok a := by
  cases x with
  | error other => exact ⟨nofun, nofun⟩
  | ok b => exact ⟨fun same => by cases same; rfl, fun same => by cases same; rfl⟩

theorem mapError_eq_error {ε δ α : Type} {x : Except ε α} {f : ε → δ} {fault : δ} :
    x.mapError f = .error fault ↔ ∃ own, x = .error own ∧ f own = fault := by
  cases x with
  | error own =>
    constructor
    · intro same
      exact ⟨own, rfl, Except.error.inj same⟩
    · rintro ⟨_, same, rfl⟩
      cases same
      rfl
  | ok a =>
    refine ⟨nofun, ?_⟩
    rintro ⟨_, same, -⟩
    cases same

theorem mapM_eq_error {ε α β : Type} {f : α → Except ε β} {xs : List α} {fault : ε} :
    xs.mapM f = .error fault ↔
      ∃ before x after, xs = before ++ x :: after ∧ (∀ y ∈ before, ∃ b, f y = .ok b) ∧
        f x = .error fault := by
  induction xs with
  | nil =>
    constructor
    · intro failed
      cases failed
    · rintro ⟨before, x, after, split, -⟩
      cases before <;> cases split
  | cons first rest ih =>
    rw [List.mapM_cons]
    cases head : f first with
    | error other =>
      constructor
      · intro failed
        cases failed
        exact ⟨[], first, rest, rfl, nofun, head⟩
      · rintro ⟨before, x, after, split, read, failed⟩
        cases before with
        | nil =>
          cases split
          rw [head] at failed
          cases failed
          rfl
        | cons y ys =>
          cases split
          obtain ⟨b, fine⟩ := read first List.mem_cons_self
          rw [head] at fine
          cases fine
    | ok b =>
      have later : (do let bs ← rest.mapM f; pure (b :: bs)) = Except.error fault ↔
          rest.mapM f = .error fault := by
        cases rest.mapM f with
        | error other => exact ⟨fun same => by cases same; rfl, fun same => by cases same; rfl⟩
        | ok bs => exact ⟨nofun, nofun⟩
      refine later.trans (ih.trans ⟨?_, ?_⟩)
      · rintro ⟨before, x, after, rfl, read, failed⟩
        refine ⟨first :: before, x, after, rfl, fun y present => ?_, failed⟩
        rcases List.mem_cons.mp present with rfl | present
        · exact ⟨b, head⟩
        · exact read y present
      · rintro ⟨before, x, after, split, read, failed⟩
        cases before with
        | nil =>
          cases split
          rw [head] at failed
          cases failed
        | cons y ys =>
          cases split
          refine ⟨ys, x, after, rfl, fun z present => ?_, failed⟩
          exact read z (List.mem_cons_of_mem _ present)

theorem exists_mapM_ok {ε α β : Type} {f : α → Except ε β} {xs : List α} :
    (∃ bs, xs.mapM f = .ok bs) ↔ ∀ x ∈ xs, ∃ b, f x = .ok b := by
  induction xs with
  | nil => exact ⟨fun _ _ present => absurd present List.not_mem_nil, fun _ => ⟨[], rfl⟩⟩
  | cons first rest ih =>
    rw [List.mapM_cons, List.forall_mem_cons, ← ih]
    cases f first with
    | error fault =>
      refine ⟨?_, ?_⟩
      · rintro ⟨_, read⟩
        cases read
      · rintro ⟨⟨_, read⟩, -⟩
        cases read
    | ok b =>
      cases rest.mapM f with
      | error fault =>
        refine ⟨?_, ?_⟩
        · rintro ⟨_, read⟩
          cases read
        · rintro ⟨-, _, read⟩
          cases read
      | ok bs => exact ⟨fun _ => ⟨⟨b, rfl⟩, bs, rfl⟩, fun _ => ⟨b :: bs, rfl⟩⟩

theorem mem_of_mapM_ok {ε α β : Type} {f : α → Except ε β} {xs : List α} {bs : List β}
    (read : xs.mapM f = .ok bs) {b : β} : b ∈ bs ↔ ∃ x ∈ xs, f x = .ok b := by
  induction xs generalizing bs with
  | nil =>
    cases read
    simp
  | cons first rest ih =>
    rw [List.mapM_cons] at read
    cases head : f first with
    | error fault =>
      rw [head] at read
      cases read
    | ok own =>
      cases later : rest.mapM f with
      | error fault =>
        rw [head, later] at read
        cases read
      | ok others =>
        rw [head, later] at read
        cases read
        simp [ih later, head, eq_comm]

end Clearance
