import Clearance.Proofs.Cluster.Heard
import Clearance.Proofs.Roster.Target
import Clearance.Roster.Agreed

/-!
# Discovery and narrowing, answer by answer

Each of the two asks the cluster one question at most. What comes of it is settled by the answer:
these lemmas give the outcome and the conversation afterwards for every answer.

Results:
1. `discover_answered`, `discover_failed`: discovery.
2. `restrictTo_answered`, `restrictTo_failed`: narrowing to a proper role.
-/

namespace Clearance.Roster

open Cluster (Channel Conversation Note heard ask_onErrand)

variable {σ ω : Type} {ch : Channel σ ω} {c : Conversation σ ω} {session : σ} {world : ω}

/-! ## Discovery -/

theorem discover_answered {r : Roster} (on : r.discoveryEnabled = true) {found : List String}
    (answer : ch.answer (.nodes .any) c.session c.world = (.ok found, session, world)) :
    r.discover ch c =
      (.ok (some found, r.extend found),
        heard c (.nodes .any) (.ok found) [.discovered found] session world) := by
  rw [discover, if_pos on, Attempt.bind_of_ok (ask_onErrand .extendNodes answer),
    Attempt.bind_of_ok (Cluster.say_heard _ _)]
  rfl

theorem discover_failed {r : Roster} (on : r.discoveryEnabled = true) {fault : Fault}
    (answer : ch.answer (.nodes .any) c.session c.world = (.error fault, session, world)) :
    r.discover ch c =
      (.error (fault.onErrand .extendNodes),
        heard c (.nodes .any) (.error fault) [] session world) := by
  rw [discover, if_pos on, Attempt.bind_of_error (ask_onErrand .extendNodes answer)]

/-! ## Narrowing -/

/-- The notes about the nodes that the cluster lists for a role. -/
def narrowingNotes (r : Roster) (role : Role) (listed : List String) : List Note :=
  if listed = [] then []
  else [.listed role listed, .narrowed role r.workingSet (r.retained listed)]

theorem restrictTo_any (r : Roster) :
    restrictTo ch .any r c = (.error (.value .anyRole), c) := by
  rw [restrictTo, if_pos rfl, Attempt.fail_apply]

theorem restrictTo_answered {role : Role} (proper : role ≠ .any) (r : Roster)
    {listed : List String}
    (answer : ch.answer (.nodes role) c.session c.world = (.ok listed, session, world)) :
    restrictTo ch role r c =
      ((r.narrow role listed).mapError .shortage,
        heard c (.nodes role) (.ok listed) (narrowingNotes r role listed) session world) := by
  rw [restrictTo, if_neg proper, Attempt.bind_of_ok (ask_onErrand (.listNodes role) answer)]
  by_cases empty : listed = []
  · simp [narrowingNotes, empty]
  · simp [Attempt.bind_apply, narrowingNotes, empty]

theorem restrictTo_failed {role : Role} (proper : role ≠ .any) (r : Roster) {fault : Fault}
    (answer : ch.answer (.nodes role) c.session c.world = (.error fault, session, world)) :
    restrictTo ch role r c =
      (.error (fault.onErrand (.listNodes role)),
        heard c (.nodes role) (.error fault) [] session world) := by
  rw [restrictTo, if_neg proper, Attempt.bind_of_error (ask_onErrand (.listNodes role) answer)]

end Clearance.Roster
