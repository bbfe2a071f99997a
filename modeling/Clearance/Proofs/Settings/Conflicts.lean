import Clearance.Settings.Conflicts

/-!
# What checked settings have in common

Results:
1. `forbid_eq_ok`, `passes_bind`: how checks go together.
2. `wan_options`, `wan_restriction`: settings for a wide area network that pass the checks ask for
   no other nodes than the declared ones.
-/

namespace Clearance.Settings

theorem forbid_eq_ok {present : Bool} {conflict : Conflict} :
    forbid present conflict = .ok () ↔ present = false := by
  cases present <;> simp [forbid]

/-- A check that others follow passes if all of them do. -/
theorem passes_bind {x : Except Conflict Unit} {next : Unit → Except Conflict Unit} :
    (x >>= next) = .ok () ↔ x = .ok () ∧ next () = .ok () := by
  cases x with
  | error conflict => exact ⟨nofun, fun both => nomatch both.1⟩
  | ok u => exact ⟨fun passed => ⟨rfl, passed⟩, fun both => both.2⟩

theorem validate_eq_ok {s : Settings} : s.validate = .ok () ↔ s.findConflict = .ok () := by
  rw [validate]
  cases s.findConflict with
  | error conflict => exact ⟨nofun, nofun⟩
  | ok u => exact ⟨fun _ => rfl, fun _ => rfl⟩

/-- Over a wide area network everything that would choose among the nodes is off. -/
theorem wan_options {s : Settings} (valid : s.validate = .ok ()) (wan : s.wanOnly = true) :
    s.discoveryEnabled = false ∧ s.clientOnly = false ∧ s.dataOnlyInForce = false ∧
      s.ingestOnly = false := by
  have passed := validate_eq_ok.mp valid
  rw [findConflict, if_pos wan] at passed
  simp only [passes_bind, forbid_eq_ok] at passed
  obtain ⟨discovery, client, data, ingest, -⟩ := passed
  exact ⟨discovery, client, data, ingest⟩

theorem wan_restriction {s : Settings} (valid : s.validate = .ok ()) (wan : s.wanOnly = true) :
    s.restriction = none := by
  obtain ⟨-, client, data, ingest⟩ := wan_options valid wan
  simp [restriction, client, data, ingest]

end Clearance.Settings
