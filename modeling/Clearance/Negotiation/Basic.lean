import Clearance.Check.Identity
import Clearance.Check.Index
import Clearance.Settings.Conflicts
import Clearance.Roster.Agreed

/-!
# Negotiation

A negotiation settles with the cluster which nodes a job may use, and which version the cluster has.
It is made from settings, which it goes on sharing: its roster is fixed when it is made, while the
checks read the settings as they are. Every step that asks the cluster opens a session of its own on
the working set and closes it however the step ends. Each part of the roster that a step settles
stays settled, also when a later step fails.
-/

namespace Clearance

open Cluster (Conversation Journal Channel)

/-- What has been settled so far. -/
structure Negotiation where
  roster : Roster
  version : Option Version := none
  deriving DecidableEq, Repr

/-- A negotiation about nothing yet: the declared nodes, and the options that settings ask for. -/
def Negotiation.ofSettings (s : Settings) : Except Fault Negotiation :=
  (Roster.ofSettings s).map fun roster => { roster }

/-- What negotiations share: the settings, the world of the cluster and the journal. -/
structure Desk (ω : Type) where
  settings : Settings
  world : ω
  journal : Journal := {}

/-- A negotiation at its desk. -/
structure Scene (ω : Type) where
  desk : Desk ω
  negotiation : Negotiation

namespace Negotiation

variable {σ ω α : Type} (ch : Channel σ ω)

/-- The settings as they are. -/
def currentSettings : Attempt (Scene ω) Settings := do
  return (← Attempt.get).desk.settings

/-- The roster as far as it is settled. -/
def currentRoster : Attempt (Scene ω) Roster := do
  return (← Attempt.get).negotiation.roster

/-- The scene with another roster. -/
def settleRoster (r : Roster) : Attempt (Scene ω) Unit :=
  Attempt.modify fun scene => { scene with negotiation := { scene.negotiation with roster := r } }

/-- The scene with a version, and the settings that record it. -/
def settleVersion (v : Version) (s : Settings) : Attempt (Scene ω) Unit :=
  Attempt.modify fun scene =>
    { desk := { scene.desk with settings := s }
      negotiation := { scene.negotiation with version := some v } }

/-- Makes a note. -/
def say (note : Cluster.Note) : Attempt (Scene ω) Unit :=
  Attempt.modify fun scene =>
    { scene with desk := { scene.desk with journal := scene.desk.journal.say note } }

/-- Talks to the cluster in a session on the working set, which is closed afterwards. -/
def inSession (talk : Attempt (Conversation σ ω) α) : Attempt (Scene ω) α :=
  fun scene =>
    let opened := ch.openOn scene.desk.settings scene.negotiation.roster.workingSet
      scene.desk.world scene.desk.journal
    let (outcome, c) := ch.closing talk opened
    (outcome, { scene with desk := { scene.desk with world := c.world, journal := c.journal } })

/-! ## Steps -/

/-- Checks the settings against each other. -/
def checkSettings : Attempt (Scene ω) Unit := do
  Attempt.ofExcept (← currentSettings).validate

/-- Checks the name of the cluster. -/
def checkName : Attempt (Scene ω) Unit := do
  inSession ch (Check.name ch (← currentSettings))

/-- Extends the working set by the nodes of the cluster, if discovery is on. -/
def extendNodes : Attempt (Scene ω) (Option (List String)) := do
  let r ← currentRoster
  if r.discoveryEnabled then
    let (found, r) ← inSession ch (r.discover ch)
    settleRoster r
    pure found
  else pure none

/-- Narrows the working set to the role that it is restricted to, if there is one. -/
def narrowNodes : Attempt (Scene ω) Unit := do
  let r ← currentRoster
  if r.restriction.isSome then
    let r ← inSession ch (r.restrict ch)
    settleRoster r

/-- Settles the version of the cluster. -/
def findVersion : Attempt (Scene ω) Version := do
  let (v, s) ← inSession ch (Check.version ch (← currentSettings))
  settleVersion v s
  pure v

/-- The whole negotiation, from the settings to the version. The answer is the working set. -/
def settle : Attempt (Scene ω) (List String) := do
  checkSettings
  if (stated (← currentSettings).clusterName).isSome then
    checkName ch
  let _ ← extendNodes ch
  narrowNodes ch
  let v ← findVersion ch
  say (.cleared (← currentRoster).workingSet v)
  return (← currentRoster).workingSet

/-- The checks before reading. -/
def clearReading : Attempt (Scene ω) Unit := do
  inSession ch (Check.reading ch (← currentSettings))

/-- The checks before writing. -/
def clearWriting : Attempt (Scene ω) Unit := do
  let s ← currentSettings
  Attempt.ofExcept (Check.documentId s)
  inSession ch (Check.writing ch s)

/-- Makes a negotiation from the settings at the desk and goes through with it. It is given back
only if it succeeds. -/
def negotiate : Attempt (Desk ω) Negotiation :=
  fun desk =>
    match Negotiation.ofSettings desk.settings with
    | .error fault => (.error fault, desk)
    | .ok negotiation =>
      let (outcome, scene) := settle ch ⟨desk, negotiation⟩
      (outcome.map fun _ => scene.negotiation, scene.desk)

end Negotiation

end Clearance
