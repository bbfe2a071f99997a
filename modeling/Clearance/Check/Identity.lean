import Clearance.Cluster.Conversation

/-!
# Which cluster it is

Two checks on the identity of the cluster: that it has the configured name, and which version it
has. A version that the settings record already is taken from there, and one that the cluster tells
is recorded, so that it is asked once at most.
-/

namespace Clearance.Check

open Cluster (Conversation Channel say)

variable {σ ω : Type} (ch : Channel σ ω)

/-- Checks that the cluster has the configured name. -/
def name (s : Settings) : Attempt (Conversation σ ω) Unit :=
  match stated s.clusterName with
  | none => Attempt.fail (.configuration .noClusterName)
  | some wanted => do
    let actual ← (ch.ask .name).onErrand .checkName
    Attempt.require (wanted == actual) (.configuration (.otherClusterName wanted actual))

/-- The fault for the caller when the version could not be asked for. -/
def versionFault : Fault → Fault
  | .transport reason => .configuration (.unknownVersion reason)
  | fault => fault

/-- The version that the settings record, or else the one that the cluster tells, with the settings
that record it. -/
def version (s : Settings) : Attempt (Conversation σ ω) (Version × Settings) :=
  match stated s.recordedVersion with
  | some recorded => do
    say (.versionKnown recorded)
    match Version.read recorded with
    | .ok v => pure (v, s)
    | .error fault => Attempt.fail (.configuration (.recordedVersion fault))
  | none => do
    let v ← (ch.ask .version).mapFault versionFault
    say (.versionDiscovered v)
    pure (v, { s with recordedVersion := some v.render })

end Clearance.Check
