import Clearance.Cluster.Canned
import Clearance.Proofs.Cluster.Boundary
import Clearance.Proofs.Negotiation.Histories
import Clearance.Proofs.Negotiation.Invariants
import Clearance.Proofs.Negotiation.Visits

/-!
# What callers hear of faults

Callers of a negotiation hear of faults of the configuration only, as long as questions to the
cluster come to no other faults than those of transport. Whether the last question of a step came to
one can be seen from the cause of what they hear.

Results:
1. `exchanged`: the questions between two scenes, as the journal has them.
2. `Heard`, `take_heard`: what comes of a step is traced to its last question.
3. `faults_heard`: this holds of every step at any time in the life of a negotiation.
-/

namespace Clearance.Negotiation

open Cluster (Canned Channel Conversation Event Exchange Genuine Honest Tells Traced Visit
  lastFault)

variable {σ ω α β : Type} {ch : Channel σ ω} {scene : Scene ω}

/-! ## Questions in the journal -/

/-- The questions that were asked between two scenes, with what came of them. -/
def exchanged (before after : Scene ω) : List Exchange :=
  (after.desk.journal.events.drop before.desk.journal.events.length).filterMap Event.exchange?

theorem Visited.exchanged {before after : Scene ω} {visits : List Visit}
    (visited : Visited before visits after) :
    exchanged before after = visits.flatMap Visit.exchanges := by
  rw [Negotiation.exchanged, visited, List.drop_left, Visit.exchanges_of_events]

/-! ## Scenes -/

/-- What came of an attempt at a scene is traced to the last question to the channel. -/
def Heard (ch : Channel σ ω) (before : Scene ω) (result : Except Fault α × Scene ω) : Prop :=
  ∃ visits, Visited before visits result.2 ∧ Genuine ch (visits.flatMap Visit.exchanges) ∧
    (Honest (visits.flatMap Visit.exchanges) →
      Traced Fault.cause (·.isConfiguration = true) (visits.flatMap Visit.exchanges) result.1)

namespace Heard

/-- A change of the scene that leaves the journal alone. -/
theorem quiet {before after : Scene ω} (a : α)
    (same : after.desk.journal.events = before.desk.journal.events) :
    Heard ch before (.ok a, after) :=
  ⟨[], by rw [Visited, same]; exact (List.append_nil _).symm, .nil, fun _ => .ok a⟩

theorem ok (a : α) : Heard ch scene (.ok a, scene) :=
  quiet a rfl

theorem fault {own : Fault} (configuration : own.isConfiguration = true)
    (groundless : own.cause = none) : Heard ch scene ((.error own : Except Fault α), scene) :=
  ⟨[], .none scene, .nil, fun _ => .fault configuration groundless⟩

theorem inSession {talk : Attempt (Conversation σ ω) α} (tells : Tells ch talk)
    (scene : Scene ω) :
    Heard ch scene (inSession ch talk scene) := by
  unfold Tells Cluster.Traces at tells
  obtain ⟨exchanges, visited, traced⟩ := inSession_visit tells scene
  refine ⟨_, visited, ?_⟩
  rw [List.flatMap_singleton]
  exact traced

/-- An attempt after another one takes place only if that one succeeds. -/
theorem bind {x : Attempt (Scene ω) α} {next : α → Attempt (Scene ω) β}
    (heard : Heard ch scene (x scene))
    (goesOn : ∀ {a after}, x scene = (.ok a, after) → Heard ch after (next a after)) :
    Heard ch scene ((x >>= next) scene) := by
  obtain ⟨visits, visited, genuine, traced⟩ := heard
  rcases outcome : x scene with ⟨own | a, after⟩
  · rw [outcome] at visited traced
    rw [Attempt.bind_of_error outcome]
    exact ⟨visits, visited, genuine, fun honest => (traced honest).ofError⟩
  · rw [outcome] at visited traced
    rw [Attempt.bind_of_ok outcome]
    obtain ⟨more, visitedLater, genuineLater, later⟩ := goesOn outcome
    refine ⟨visits ++ more, visited.append visitedLater, ?_⟩
    rw [List.flatMap_append]
    refine ⟨genuine.append genuineLater, fun honest => ?_⟩
    obtain ⟨early, late⟩ := honest.append
    exact (traced early).append (later late)

/-- An answer that is only told in another way. -/
theorem reply {x : Attempt (Scene ω) α} {f : α → β} (heard : Heard ch scene (x scene)) :
    Heard ch scene ((x >>= fun a => pure (f a)) scene) :=
  heard.bind fun _ => ok _

end Heard

/-! ## Steps -/

/-- Nodes are not narrowed to those of any role. -/
def Proper (scene : Scene ω) : Prop :=
  scene.negotiation.roster.restriction ≠ some .any

theorem checkSettings_heard (ch : Channel σ ω) (scene : Scene ω) :
    Heard ch scene (checkSettings scene) := by
  rw [checkSettings_eq, Settings.validate]
  cases scene.desk.settings.findConflict with
  | ok u => exact .ok u
  | error conflict => exact .fault rfl rfl

theorem extendNodes_heard (ch : Channel σ ω) (scene : Scene ω) :
    Heard ch scene (extendNodes ch scene) := by
  cases on : scene.negotiation.roster.discoveryEnabled with
  | false =>
    rw [extendNodes_off on]
    exact .ok none
  | true =>
    rw [extendNodes, Attempt.bind_of_ok (rfl : currentRoster scene = (.ok _, scene)), if_pos on]
    exact Heard.bind (.inSession (Roster.tells_discover ch _) scene) fun _ => .quiet _ rfl

theorem narrowNodes_heard (ch : Channel σ ω) (proper : Proper scene) :
    Heard ch scene (narrowNodes ch scene) := by
  cases restricted : scene.negotiation.roster.restriction with
  | none =>
    rw [narrowNodes_off restricted]
    exact .ok ()
  | some role =>
    have restrictive : scene.negotiation.roster.restriction.isSome = true := by rw [restricted]; rfl
    rw [narrowNodes, Attempt.bind_of_ok (rfl : currentRoster scene = (.ok _, scene)),
      if_pos restrictive]
    exact Heard.bind (.inSession (Roster.tells_restrict ch proper) scene) fun _ => .quiet _ rfl

theorem findVersion_heard (ch : Channel σ ω) (scene : Scene ω) :
    Heard ch scene (findVersion ch scene) := by
  rw [findVersion, Attempt.bind_of_ok (rfl : currentSettings scene = (.ok _, scene))]
  exact Heard.bind (.inSession (Check.tells_version ch _) scene) fun _ => .quiet _ rfl

theorem clearWriting_heard (ch : Channel σ ω) (scene : Scene ω) :
    Heard ch scene (clearWriting ch scene) := by
  rw [clearWriting_eq]
  cases identified : Check.documentId scene.desk.settings with
  | ok u => exact .inSession (Check.tells_writing ch _) scene
  | error own =>
    rw [Check.documentId] at identified
    split at identified
    · cases identified
      exact .fault rfl rfl
    · cases identified

theorem single_heard (ch : Channel σ ω) {step : Step} (single : step ≠ .settle)
    (proper : Proper scene) : Heard ch scene (step.take ch scene) := by
  cases step with
  | settle => exact absurd rfl single
  | checkSettings => exact .reply (checkSettings_heard ch scene)
  | checkName => exact .reply (.inSession (Check.tells_name ch _) scene)
  | extendNodes => exact .reply (extendNodes_heard ch scene)
  | narrowNodes => exact .reply (narrowNodes_heard ch proper)
  | findVersion => exact .reply (findVersion_heard ch scene)
  | clearReading => exact .reply (.inSession (Check.tells_reading ch _) scene)
  | clearWriting => exact .reply (clearWriting_heard ch scene)

theorem SameOptions.proper {before after : Scene ω} (proper : Proper before)
    (options : SameOptions before.negotiation.roster after.negotiation.roster) : Proper after := by
  rw [Proper, options.restriction]
  exact proper

/-- Steps that are taken until one fails are heard of as that one, as the others were answered. -/
theorem takeAll_heard (ch : Channel σ ω) {steps : List Step}
    (singles : ∀ step ∈ steps, step ≠ .settle) (proper : Proper scene) :
    Heard ch scene (takeAll ch steps scene) := by
  induction steps generalizing scene with
  | nil => exact .ok ()
  | cons step rest ih =>
    have first := single_heard ch (singles step List.mem_cons_self) proper
    refine first.bind fun {reply after} taken => ?_
    refine ih (fun later present => singles later (List.mem_cons_of_mem _ present)) ?_
    have options := take_options ch step scene
    rw [taken] at options
    exact options.proper proper

theorem take_heard (ch : Channel σ ω) (step : Step) (proper : Proper scene) :
    Heard ch scene (step.take ch scene) := by
  by_cases whole : step = .settle
  · subst whole
    refine Heard.reply (x := settle ch) ?_
    rw [settle_eq]
    refine (takeAll_heard ch (fun _ => phases_single) proper).bind fun {_ after} _ => ?_
    -- Only a note follows the phases.
    rcases after with ⟨desk, ⟨roster, _ | v⟩⟩
    all_goals exact .quiet _ rfl
  · exact single_heard ch whole proper

/-! ## What is heard -/

/-- Every fault of the outcome is one of the configuration, and those which the last question came
to are known by their cause. -/
structure Contained (exchanges : List Exchange) (outcome : Except Fault α) : Prop where
  configuration : ∀ {fault}, outcome = .error fault → fault.isConfiguration = true
  untransported : ∀ reason, outcome ≠ .error (.transport reason)
  caused : ∀ reason,
    (∃ fault, outcome = .error fault ∧ fault.cause = some (.transport reason)) ↔
      lastFault exchanges = some (.transport reason)
  /-- It is a fault of the configuration in the narrow sense then, and no shortage. -/
  plain : ∀ {fault reason}, outcome = .error fault → fault.cause = some reason →
    ∃ own, fault = .configuration own

theorem contained_of_traced {exchanges : List Exchange} {outcome : Except Fault α}
    (traced : Traced Fault.cause (·.isConfiguration = true) exchanges outcome) :
    Contained exchanges outcome where
  configuration := traced.ofKind
  untransported reason same := by
    have configuration := traced.ofKind same
    cases configuration
  caused reason := by
    rw [traced.last]
    cases outcome with
    | ok a =>
      refine ⟨?_, nofun⟩
      rintro ⟨_, failed, -⟩
      cases failed
    | error fault =>
      refine ⟨?_, fun caused => ⟨fault, rfl, caused⟩⟩
      rintro ⟨_, same, caused⟩
      cases same
      exact caused
  plain _ caused := Fault.plain_of_cause caused

/-- At any time in the life of a negotiation, all questions of a step are answered by the channel.
If they come to no other faults than those of transport, then the step ends well or with a fault of
the configuration, and a fault of transport is the cause of what it ends with if and only if the
last question came to it. -/
theorem faults_heard {s : Settings} {n : Negotiation} (made : Negotiation.ofSettings s = .ok n)
    (ch : Channel σ ω) (world : ω) (journal : Cluster.Journal) (history : List Turn)
    (step : Step) :
    let now := live ch history ⟨⟨s, world, journal⟩, n⟩
    let asked := exchanged now (step.take ch now).2
    Genuine ch asked ∧ (Honest asked → Contained asked (step.take ch now).1) := by
  intro now asked
  have proper : Proper now :=
    (live_options ch history ⟨⟨s, world, journal⟩, n⟩).proper (restriction_proper made)
  obtain ⟨visits, visited, genuine, traced⟩ := take_heard ch step proper
  have same : asked = visits.flatMap Visit.exchanges := visited.exchanged
  rw [same]
  exact ⟨genuine, fun honest => contained_of_traced (traced honest)⟩

/-- Nodes are told, and the version is not. What comes of it is a fault with this as its cause. -/
theorem untold_version_heard :
    let s : Settings := { nodes := ["a:9200"] }
    let n : Negotiation := ⟨⟨["a:9200"], true, some .data⟩, none⟩
    let down := Fault.transport (.reported "down")
    let cluster : Canned :=
      { nodes := [(.any, ["a:9200", "b:9200"]), (.data, ["b:9200"])]
        faults := [("remote_version", down)] }
    let now := live Canned.channel [.step .extendNodes] ⟨⟨s, cluster, {}⟩, n⟩
    let asked := exchanged now (Step.settle.take Canned.channel now).2
    Negotiation.ofSettings s = .ok n ∧
      asked.map Exchange.query = [.nodes .any, .nodes .data, .version] ∧
      Honest asked ∧ lastFault asked = some down ∧ ∃ fault,
        (Step.settle.take Canned.channel now).1 = .error fault ∧ fault.cause = some down := by
  intro s n down cluster now asked
  have made : Negotiation.ofSettings s = .ok n := rfl
  have honest : Honest asked := by decide +kernel
  have last : lastFault asked = some down := by decide +kernel
  have contained :=
    (faults_heard made Canned.channel cluster {} [.step .extendNodes] .settle).2 honest
  exact ⟨made, by decide +kernel, honest, last, (contained.caused _).mpr last⟩

end Clearance.Negotiation
