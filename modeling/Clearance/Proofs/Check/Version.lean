import Clearance.Check.Identity
import Clearance.Proofs.Cluster.Heard

/-!
# The version, answer by answer

A version that the settings record is read from them without a question. Otherwise the cluster is
asked, and what it tells is recorded.

Results:
1. `version_recorded`, `version_told`, `version_untold`: the outcome and the conversation
   afterwards in each of the three cases.
2. `version_settings`: nothing in the settings is written but the recorded version.
-/

namespace Clearance.Check

open Cluster (Channel Conversation heard)

variable {σ ω : Type} {ch : Channel σ ω} {c : Conversation σ ω} {s : Settings} {session : σ}
  {world : ω}

theorem version_recorded {recorded : String} (known : stated s.recordedVersion = some recorded) :
    version ch s c =
      (((Version.read recorded).mapError fun flaw => .configuration (.recordedVersion flaw)).map
          fun v => (v, s),
        { c with journal := c.journal.say (.versionKnown recorded) }) := by
  have said : Cluster.say (.versionKnown recorded) c =
      (.ok (), { c with journal := c.journal.say (.versionKnown recorded) }) := rfl
  simp only [version, known]
  rw [Attempt.bind_of_ok said]
  cases Version.read recorded <;> rfl

theorem version_told (unknown : stated s.recordedVersion = none) {v : Version}
    (answer : ch.answer .version c.session c.world = (.ok v, session, world)) :
    version ch s c =
      (.ok (v, { s with recordedVersion := some v.render }),
        heard c .version (.ok v) [.versionDiscovered v] session world) := by
  simp only [version, unknown]
  rw [Attempt.bind_of_ok (Cluster.ask_mapFault versionFault answer),
    Attempt.bind_of_ok (Cluster.say_heard _ _)]
  rfl

theorem version_untold (unknown : stated s.recordedVersion = none) {fault : Fault}
    (answer : ch.answer .version c.session c.world = (.error fault, session, world)) :
    version ch s c =
      (.error (versionFault fault), heard c .version (.error fault) [] session world) := by
  simp only [version, unknown]
  rw [Attempt.bind_of_error (Cluster.ask_mapFault versionFault answer)]

theorem version_settings {t : Settings} {v : Version}
    (settled : (version ch s c).1 = .ok (v, t)) :
    ∃ recorded, t = { s with recordedVersion := recorded } := by
  cases known : stated s.recordedVersion with
  | some recorded =>
    rw [version_recorded known] at settled
    cases read : Version.read recorded with
    | error flaw =>
      rw [read] at settled
      cases settled
    | ok w =>
      rw [read] at settled
      cases settled
      exact ⟨s.recordedVersion, rfl⟩
  | none =>
    rcases answer : ch.answer .version c.session c.world with ⟨fault | told, session, world⟩
    · rw [version_untold known answer] at settled
      cases settled
    · rw [version_told known answer] at settled
      cases settled
      exact ⟨_, rfl⟩

end Clearance.Check
