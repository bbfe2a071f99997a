import Clearance.Proofs.Negotiation.Runs

/-!
# Histories

The settings stay in the hands of the caller, who may assign them at any time. A history is what
happens to a negotiation from the outside: steps that are taken, and assignments between them. The
options of the roster are those that it was made with, whatever happens.

Results:
1. `live_keeps`: what every step and every assignment keeps is kept by every history.
2. `live_options`: no history changes the options of the roster.
-/

namespace Clearance.Negotiation

open Cluster (Channel)

variable {σ ω : Type} {ch : Channel σ ω} {scene : Scene ω}

/-- Something that may happen to a negotiation. -/
inductive Turn where
  | step (step : Step)
  /-- The caller changes the settings. -/
  | assign (change : Settings → Settings)

/-- The scene after a turn. -/
def Turn.take (ch : Channel σ ω) : Turn → Scene ω → Scene ω
  | .step taken, scene => (taken.take ch scene).2
  | .assign change, scene =>
    { scene with desk := { scene.desk with settings := change scene.desk.settings } }

/-- The scene after a history. -/
def live (ch : Channel σ ω) : List Turn → Scene ω → Scene ω
  | [], scene => scene
  | turn :: rest, scene => live ch rest (turn.take ch scene)

theorem live_keeps {P : Scene ω → Prop}
    (steps : ∀ scene step, P scene → P (Step.take ch step scene).2)
    (assignments : ∀ scene change, P scene → P (Turn.take ch (.assign change) scene))
    (history : List Turn) (start : P scene) : P (live ch history scene) := by
  induction history generalizing scene with
  | nil => exact start
  | cons turn rest ih =>
    cases turn with
    | step step => exact ih (steps scene step start)
    | assign change => exact ih (assignments scene change start)

/-- The second roster has the options of the first one. -/
structure SameOptions (first now : Roster) : Prop where
  discovery : now.discoveryEnabled = first.discoveryEnabled
  restriction : now.restriction = first.restriction

theorem SameOptions.trans {first next now : Roster} (early : SameOptions first next)
    (late : SameOptions next now) : SameOptions first now where
  discovery := late.discovery.trans early.discovery
  restriction := late.restriction.trans early.restriction

theorem Moves.options {now : Roster} (moved : Moves ch scene now) :
    SameOptions scene.negotiation.roster now := by
  cases moved with
  | stays => exact ⟨rfl, rfl⟩
  | grows on answer => exact ⟨rfl, rfl⟩
  | narrows restricted answer left =>
    obtain ⟨-, rfl⟩ := Roster.narrow_eq_ok.mp left
    exact ⟨rfl, rfl⟩

theorem take_options (ch : Channel σ ω) (step : Step) (scene : Scene ω) :
    SameOptions scene.negotiation.roster (step.take ch scene).2.negotiation.roster := by
  refine take_keeps (P := fun now => SameOptions scene.negotiation.roster now.negotiation.roster)
    (fun now step single soFar => soFar.trans (take_single single).moves.options)
    (fun now soFar => ?_) step ⟨rfl, rfl⟩
  rw [conclude_negotiation]
  exact soFar

theorem live_options (ch : Channel σ ω) (history : List Turn) (scene : Scene ω) :
    SameOptions scene.negotiation.roster (live ch history scene).negotiation.roster :=
  live_keeps (P := fun now => SameOptions scene.negotiation.roster now.negotiation.roster)
    (fun now step soFar => soFar.trans (take_options ch step now)) (fun _ _ soFar => soFar) history
    ⟨rfl, rfl⟩

end Clearance.Negotiation
