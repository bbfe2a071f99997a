import Clearance.Cluster.Conversation
import Clearance.Roster.Basic

/-!
# The roster that the cluster allows

Discovery and narrowing as conversations with the cluster. Each gives the new roster back, and a
fault leaves the old one as it was.
-/

namespace Clearance.Roster

open Cluster (Conversation Channel say)

variable {σ ω : Type} (ch : Channel σ ω)

/-- Adds every node of the cluster to the working set, if discovery is on. The addresses that the
cluster gave are part of the answer. -/
def discover (r : Roster) : Attempt (Conversation σ ω) (Option (List String) × Roster) :=
  if r.discoveryEnabled then do
    let found ← (ch.ask (.nodes .any)).onErrand .extendNodes
    say (.discovered found)
    pure (some found, r.extend found)
  else pure (none, r)

/-- Narrows the working set to the nodes of a role. -/
def restrictTo (role : Role) (r : Roster) : Attempt (Conversation σ ω) Roster :=
  if role = .any then Attempt.fail (.value .anyRole)
  else do
    let listed ← (ch.ask (.nodes role)).onErrand (.listNodes role)
    if listed ≠ [] then
      say (.listed role listed)
      say (.narrowed role r.workingSet (r.retained listed))
    Attempt.ofExcept ((r.narrow role listed).mapError .shortage)

/-- Narrows the working set to the role that it is restricted to, if there is one. -/
def restrict (r : Roster) : Attempt (Conversation σ ω) Roster :=
  match r.restriction with
  | some role => restrictTo ch role r
  | none => pure r

end Clearance.Roster
