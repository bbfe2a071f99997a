import Clearance.Fault

/-!
# Attempts

An attempt works on a state, and ends with an answer or with a fault. The state survives a fault:
whatever had been done until then stays done. Attempts are run one after the other, and the first
fault ends the sequence.

* A sequence goes on after an answer (`bind_of_ok`) and stops after a fault (`bind_of_error`).
-/

namespace Clearance

/-- A computation on a state that may end with a fault. -/
def Attempt (S α : Type) : Type :=
  S → Except Fault α × S

instance {α : Type} [DecidableEq α] : DecidableEq (Except Fault α)
  | .ok a, .ok b => decidable_of_iff (a = b) (by simp)
  | .error fault, .error other => decidable_of_iff (fault = other) (by simp)
  | .ok _, .error _ => isFalse nofun
  | .error _, .ok _ => isFalse nofun

namespace Attempt

variable {S α β : Type}

instance : Monad (Attempt S) where
  pure a := fun s => (.ok a, s)
  bind x f := fun s =>
    match x s with
    | (.ok a, s') => f a s'
    | (.error fault, s') => (.error fault, s')

/-- Ends with a fault. -/
def fail (fault : Fault) : Attempt S α :=
  fun s => (.error fault, s)

/-- What is known without touching the state. -/
def ofExcept (r : Except Fault α) : Attempt S α :=
  fun s => (r, s)

/-- The state. -/
def get : Attempt S S :=
  fun s => (.ok s, s)

/-- Changes the state. -/
def modify (f : S → S) : Attempt S Unit :=
  fun s => (.ok (), f s)

/-- Fails with the fault unless the condition holds. -/
def require (condition : Bool) (fault : Fault) : Attempt S Unit :=
  if condition then pure () else fail fault

/-- The attempt with its faults told in another way. -/
def mapFault (f : Fault → Fault) (x : Attempt S α) : Attempt S α :=
  fun s => ((x s).1.mapError f, (x s).2)

/-- The attempt as part of an errand: a fault of transport becomes one of the configuration. -/
def onErrand (errand : Errand) (x : Attempt S α) : Attempt S α :=
  x.mapFault (·.onErrand errand)

@[simp] theorem pure_apply (a : α) (s : S) : (pure a : Attempt S α) s = (.ok a, s) := rfl

@[simp] theorem fail_apply (fault : Fault) (s : S) :
    (fail fault : Attempt S α) s = (.error fault, s) := rfl

@[simp] theorem ofExcept_apply (r : Except Fault α) (s : S) : ofExcept r s = (r, s) := rfl

@[simp] theorem get_apply (s : S) : (get : Attempt S S) s = (.ok s, s) := rfl

@[simp] theorem modify_apply (f : S → S) (s : S) : modify f s = (.ok (), f s) := rfl

@[simp] theorem mapFault_apply (f : Fault → Fault) (x : Attempt S α) (s : S) :
    mapFault f x s = ((x s).1.mapError f, (x s).2) := rfl

theorem bind_apply (x : Attempt S α) (f : α → Attempt S β) (s : S) :
    (x >>= f) s =
      match x s with
      | (.ok a, s') => f a s'
      | (.error fault, s') => (.error fault, s') := rfl

theorem bind_of_ok {x : Attempt S α} {f : α → Attempt S β} {s s' : S} {a : α}
    (h : x s = (.ok a, s')) : (x >>= f) s = f a s' := by
  rw [bind_apply, h]

theorem bind_of_error {x : Attempt S α} {f : α → Attempt S β} {s s' : S} {fault : Fault}
    (h : x s = (.error fault, s')) : (x >>= f) s = (.error fault, s') := by
  rw [bind_apply, h]

/-- An answer that is only told in another way leaves the state to the attempt. -/
theorem bind_pure_apply (x : Attempt S α) (f : α → β) (s : S) :
    (x >>= fun a => pure (f a)) s = ((x s).1.map f, (x s).2) := by
  rw [bind_apply]
  rcases x s with ⟨fault | a, s'⟩ <;> rfl

theorem of_bind_pure {x : Attempt S α} {f : α → β} {s s' : S} {b : β}
    (h : (x >>= fun a => pure (f a)) s = (.ok b, s')) : ∃ a, x s = (.ok a, s') ∧ f a = b := by
  rw [bind_pure_apply] at h
  rcases outcome : x s with ⟨fault | a, s''⟩
  · rw [outcome] at h
    cases h
  · rw [outcome] at h
    cases h
    exact ⟨a, rfl, rfl⟩

end Attempt

end Clearance
