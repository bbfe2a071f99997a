import Clearance.Proofs.Cluster.Visit
import Clearance.Proofs.Negotiation.Runs

/-!
# The visits of a negotiation

A step that asks the cluster does so in one visit on the working set. For the phases of a whole
negotiation it is settled beforehand what the visit is for, whatever the cluster answers.

Results:
1. `asks_name`, `asks_discover`, `asks_restrict`, `asks_version`: the questions of each talk.
2. `inSession_visit`: what a talk adds is one visit.
3. `take_visits`: the visits of a phase.
-/

namespace Clearance

open Cluster (Adds Aim Asks Channel Conversation Exchange Query Visit)

variable {σ ω α : Type} {ch : Channel σ ω}

/-! ## Talks -/

theorem Check.asks_name {s : Settings} (named : (stated s.clusterName).isSome = true) :
    Asks (Check.name ch s) [.name] := by
  obtain ⟨wanted, stated⟩ := Option.isSome_iff_exists.mp named
  rw [Check.name, stated]
  exact (Asks.ask .name _).opening fun actual => Adds.require rfl rfl

theorem Roster.asks_discover {r : Roster} (on : r.discoveryEnabled = true) :
    Asks (r.discover ch) [.nodes .any] := by
  rw [Roster.discover, if_pos on]
  exact (Asks.ask (.nodes .any) _).opening fun found =>
    Asks.opening (Adds.say rfl) fun _ => Adds.pure rfl

/-- What the cluster is asked to narrow the nodes to a role: nothing if every node has the role, as
nodes are not narrowed to that. -/
def narrowingQueries (role : Role) : List Query :=
  if role = .any then [] else [.nodes role]

theorem Roster.asks_restrict {r : Roster} {role : Role} (restricted : r.restriction = some role) :
    Asks (r.restrict ch) (narrowingQueries role) := by
  simp only [Roster.restrict, restricted]
  by_cases any : role = .any
  · rw [Roster.restrictTo, if_pos any, narrowingQueries, if_pos any]
    exact Adds.fail rfl
  · rw [Roster.restrictTo, if_neg any, narrowingQueries, if_neg any]
    refine (Asks.ask (.nodes role) _).opening fun listed => ?_
    by_cases empty : listed = []
    · simp only [empty, ne_eq, not_true, if_false]
      exact Adds.ofExcept rfl
    · simp only [ne_eq, empty, not_false_eq_true, if_true]
      exact Asks.opening (Adds.say rfl) fun _ =>
        Asks.opening (Adds.say rfl) fun _ => Adds.ofExcept rfl

theorem Check.asks_version (s : Settings) :
    Asks (Check.version ch s) (if (stated s.recordedVersion).isSome then [] else [.version]) := by
  cases known : stated s.recordedVersion with
  | some recorded =>
    rw [Check.version, known]
    refine Asks.opening (Adds.say rfl) fun _ => ?_
    cases Version.read recorded with
    | ok v => exact Adds.pure rfl
    | error flaw => exact Adds.fail rfl
  | none =>
    rw [Check.version, known]
    exact (Asks.ask .version _).opening fun v => Asks.opening (Adds.say rfl) fun _ => Adds.pure rfl

namespace Negotiation

variable {scene : Scene ω}

/-! ## Sessions -/

/-- Between the two scenes these visits took place. -/
def Visited (before : Scene ω) (visits : List Visit) (after : Scene ω) : Prop :=
  after.desk.journal.events = before.desk.journal.events ++ visits.flatMap Visit.events

theorem Visited.none (scene : Scene ω) : Visited scene [] scene :=
  (List.append_nil _).symm

theorem Visited.append {before between after : Scene ω} {visits more : List Visit}
    (first : Visited before visits between) (second : Visited between more after) :
    Visited before (visits ++ more) after := by
  rw [Visited, second, first, List.flatMap_append, List.append_assoc]

theorem inSession_visit {talk : Attempt (Conversation σ ω) α}
    {condition : List Exchange → Except Fault α → Prop} (added : Adds talk condition)
    (scene : Scene ω) :
    ∃ exchanges,
      Visited scene [⟨scene.negotiation.roster.workingSet, exchanges⟩] (inSession ch talk scene).2 ∧
      condition exchanges (inSession ch talk scene).1 := by
  obtain ⟨exchanges, recorded, met⟩ := added (opened ch scene)
  refine ⟨exchanges, ?_, met⟩
  have said := inSession_of (rfl : talk (opened ch scene) = (_, _))
  rw [Visited, said]
  simp only [Cluster.Journal.record, recorded]
  simp [opened, Channel.openOn, Cluster.Journal.record, Visit.events]

theorem inSession_aim (ch : Channel σ ω) {talk : Attempt (Conversation σ ω) α}
    {queries : List Query} (asked : Asks talk queries) (scene : Scene ω) :
    ∃ visits, Visited scene visits (inSession ch talk scene).2 ∧
      visits.map Visit.aim = [⟨scene.negotiation.roster.workingSet, queries⟩] := by
  obtain ⟨exchanges, visited, same⟩ := inSession_visit asked scene
  refine ⟨_, visited, ?_⟩
  rw [← same]
  rfl

/-! ## Phases -/

/-- What the cluster is visited for by a phase of a whole negotiation. -/
def aims (scene : Scene ω) : Step → List Aim
  | .checkName => [⟨scene.negotiation.roster.workingSet, [.name]⟩]
  | .extendNodes =>
    if scene.negotiation.roster.discoveryEnabled then
      [⟨scene.negotiation.roster.workingSet, [.nodes .any]⟩]
    else []
  | .narrowNodes =>
    scene.negotiation.roster.restriction.toList.map fun role =>
      ⟨scene.negotiation.roster.workingSet, narrowingQueries role⟩
  | .findVersion =>
    [⟨scene.negotiation.roster.workingSet,
      if (stated scene.desk.settings.recordedVersion).isSome then [] else [.version]⟩]
  | .settle | .checkSettings | .clearReading | .clearWriting => []

/-- What is done afterwards without the cluster adds no visit. -/
theorem Visited.quietly {β : Type} {x : Attempt (Scene ω) α} {next : α → Attempt (Scene ω) β}
    {visits : List Visit} (visited : Visited scene visits (x scene).2)
    (quiet : ∀ a now, Visited now [] (next a now).2) :
    Visited scene visits ((x >>= next) scene).2 := by
  rcases outcome : x scene with ⟨fault | a, after⟩
  · rw [Attempt.bind_of_error outcome]
    rw [outcome] at visited
    exact visited
  · rw [Attempt.bind_of_ok outcome]
    rw [outcome] at visited
    rw [← List.append_nil visits]
    exact visited.append (quiet a after)

theorem extendNodes_aims (ch : Channel σ ω) (scene : Scene ω) :
    ∃ visits, Visited scene visits (extendNodes ch scene).2 ∧
      visits.map Visit.aim = aims scene .extendNodes := by
  cases on : scene.negotiation.roster.discoveryEnabled with
  | false =>
    rw [extendNodes_off on]
    exact ⟨[], .none scene, by simp [aims, on]⟩
  | true =>
    obtain ⟨visits, visited, same⟩ := inSession_aim ch (Roster.asks_discover on) scene
    refine ⟨visits, ?_, by rw [same]; simp [aims, on]⟩
    rw [extendNodes, Attempt.bind_of_ok (rfl : currentRoster scene = (.ok _, scene)), if_pos on]
    exact visited.quietly fun a now => .none now

theorem narrowNodes_aims (ch : Channel σ ω) (scene : Scene ω) :
    ∃ visits, Visited scene visits (narrowNodes ch scene).2 ∧
      visits.map Visit.aim = aims scene .narrowNodes := by
  cases restricted : scene.negotiation.roster.restriction with
  | none =>
    rw [narrowNodes_off restricted]
    exact ⟨[], .none scene, by simp [aims, restricted]⟩
  | some role =>
    obtain ⟨visits, visited, same⟩ :=
      inSession_aim ch (Roster.asks_restrict restricted) scene
    refine ⟨visits, ?_, by rw [same]; simp [aims, restricted]⟩
    have restrictive : scene.negotiation.roster.restriction.isSome = true := by rw [restricted]; rfl
    rw [narrowNodes, Attempt.bind_of_ok (rfl : currentRoster scene = (.ok _, scene)),
      if_pos restrictive]
    exact visited.quietly fun r now => .none now

theorem findVersion_aims (ch : Channel σ ω) (scene : Scene ω) :
    ∃ visits, Visited scene visits (findVersion ch scene).2 ∧
      visits.map Visit.aim = aims scene .findVersion := by
  obtain ⟨visits, visited, same⟩ :=
    inSession_aim ch (Check.asks_version scene.desk.settings) scene
  refine ⟨visits, ?_, same⟩
  rw [findVersion, Attempt.bind_of_ok (rfl : currentSettings scene = (.ok _, scene))]
  exact visited.quietly fun a now => .none now

theorem named_of_phase {s : Settings} (phase : Step.checkName ∈ phases s) :
    (stated s.clusterName).isSome = true := by
  cases named : (stated s.clusterName).isSome with
  | true => rfl
  | false =>
    rw [phases, named] at phase
    simp at phase

/-- The visits of a phase are for what it is settled that they are for. -/
theorem take_visits {step : Step} (phase : step ∈ phases scene.desk.settings) (ch : Channel σ ω) :
    ∃ visits, Visited scene visits (step.take ch scene).2 ∧
      visits.map Visit.aim = aims scene step := by
  cases step with
  | settle => exact absurd rfl (phases_single phase)
  | checkSettings =>
    rw [Step.take, Attempt.bind_pure_apply]
    exact ⟨[], .none scene, rfl⟩
  | checkName =>
    rw [Step.take, Attempt.bind_pure_apply]
    exact inSession_aim ch (Check.asks_name (named_of_phase phase)) scene
  | extendNodes =>
    rw [Step.take, Attempt.bind_pure_apply]
    exact extendNodes_aims ch scene
  | narrowNodes =>
    rw [Step.take, Attempt.bind_pure_apply]
    exact narrowNodes_aims ch scene
  | findVersion =>
    rw [Step.take, Attempt.bind_pure_apply]
    exact findVersion_aims ch scene
  | clearReading | clearWriting =>
    rw [phases] at phase
    split at phase
    all_goals simp at phase

end Negotiation

end Clearance
