import Clearance.Negotiation.Basic

/-!
# Steps of a negotiation

The steps that a caller can take with a negotiation, in any order and as often as they like, and the
answers that they have.
-/

namespace Clearance.Negotiation

open Cluster (Channel)

/-- A step that a caller can take. -/
inductive Step where
  | settle
  | checkSettings
  | checkName
  | extendNodes
  | narrowNodes
  | findVersion
  | clearReading
  | clearWriting
  deriving DecidableEq, Repr

/-- What a step answers. -/
inductive Reply where
  | done
  | nodes (nodes : List String)
  | found (nodes : Option (List String))
  | version (version : Version)
  deriving DecidableEq, Repr

variable {σ ω : Type} (ch : Channel σ ω)

/-- Takes a step. -/
def Step.take : Step → Attempt (Scene ω) Reply
  | settle => do return .nodes (← Negotiation.settle ch)
  | checkSettings => do Negotiation.checkSettings; return .done
  | checkName => do Negotiation.checkName ch; return .done
  | extendNodes => do return .found (← Negotiation.extendNodes ch)
  | narrowNodes => do Negotiation.narrowNodes ch; return .done
  | findVersion => do return .version (← Negotiation.findVersion ch)
  | clearReading => do Negotiation.clearReading ch; return .done
  | clearWriting => do Negotiation.clearWriting ch; return .done

/-- The scene after some steps, each of which may have failed. -/
def run : List Step → Scene ω → Scene ω
  | [], scene => scene
  | step :: rest, scene => run rest (step.take ch scene).2

end Clearance.Negotiation
