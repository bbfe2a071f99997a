import Clearance.Negotiation.Step
import Clearance.Proofs.Check.Version
import Clearance.Proofs.Roster.Answers

/-!
# What single steps do

Discovery and narrowing each open one session and ask it one question. What they do to the scene is
settled by the answer. Every other step leaves the roster alone.

Results:
1. `extendNodes_answered`, `extendNodes_failed`: growth, by the answer of the cluster.
2. `narrowNodes_narrowed`, `narrowNodes_short`, `narrowNodes_failed`: narrowing likewise.
3. `extendNodes_cases`, `narrowNodes_cases`: there is nothing else that the two can do.
4. `inSession_negotiation`, `inSession_settings`: a session touches neither the negotiation nor the
   settings.
-/

namespace Clearance

open Cluster (Channel Conversation Query Note heard)

/-- The scene after a session on the working set in which one question was asked. -/
def Scene.asked {ω : Type} (scene : Scene ω) (query : Query)
    (outcome : Except Fault query.Answer) (notes : List Note) (world : ω) : Scene ω where
  negotiation := scene.negotiation
  desk :=
    { settings := scene.desk.settings
      world := world
      journal :=
        { events := scene.desk.journal.events ++
            [.opened scene.negotiation.roster.workingSet, .asked query outcome, .closed]
          notes := scene.desk.journal.notes ++ notes } }

/-- The scene with another roster. -/
def Scene.withRoster {ω : Type} (scene : Scene ω) (r : Roster) : Scene ω :=
  { scene with negotiation := { scene.negotiation with roster := r } }

namespace Negotiation

variable {σ ω α : Type} {ch : Channel σ ω} {scene : Scene ω}

/-! ## Sessions -/

/-- The conversation that a step of the scene begins with. -/
def opened (ch : Channel σ ω) (scene : Scene ω) : Conversation σ ω :=
  ch.openOn scene.desk.settings scene.negotiation.roster.workingSet scene.desk.world
    scene.desk.journal

/-- What the cluster answers to a question if it is the first one of a session that is opened now,
with the session and the world behind it afterwards. -/
def firstAnswer (ch : Channel σ ω) (query : Query) (scene : Scene ω) :
    Except Fault query.Answer × σ × ω :=
  ch.answer query (opened ch scene).session (opened ch scene).world

theorem inSession_of {talk : Attempt (Conversation σ ω) α} {outcome : Except Fault α}
    {c : Conversation σ ω} (said : talk (opened ch scene) = (outcome, c)) :
    inSession ch talk scene =
      (outcome,
        { scene with desk :=
            { scene.desk with
              world := (ch.stop c.session c.world).2
              journal := c.journal.record .closed } }) := by
  rw [opened] at said
  simp [inSession, Channel.closing, Channel.close, said]

/-- A session in which one question was asked. -/
theorem inSession_heard {talk : Attempt (Conversation σ ω) α} {outcome : Except Fault α}
    {query : Query} {answer : Except Fault query.Answer} {notes : List Note} {session : σ}
    {world : ω}
    (said : talk (opened ch scene) =
      (outcome, heard (opened ch scene) query answer notes session world)) :
    inSession ch talk scene =
      (outcome, scene.asked query answer notes (ch.stop session world).2) := by
  rw [inSession_of said]
  simp [Scene.asked, heard, opened, Channel.openOn, Cluster.Journal.record]

/-! ## Growth -/

theorem extendNodes_off (off : scene.negotiation.roster.discoveryEnabled = false) :
    extendNodes ch scene = (.ok none, scene) := by
  simp [extendNodes, currentRoster, Attempt.bind_apply, off]

theorem extendNodes_answered (on : scene.negotiation.roster.discoveryEnabled = true)
    {found : List String} {session : σ} {world : ω}
    (answer : firstAnswer ch (.nodes .any) scene = (.ok found, session, world)) :
    extendNodes ch scene =
      (.ok (some found),
        (scene.asked (.nodes .any) (.ok found) [.discovered found]
          (ch.stop session world).2).withRoster
          (scene.negotiation.roster.extend found)) := by
  have said := inSession_heard (Roster.discover_answered on answer)
  simp [extendNodes, currentRoster, Attempt.bind_apply, on, said, settleRoster, Scene.withRoster,
    Scene.asked]

theorem extendNodes_failed (on : scene.negotiation.roster.discoveryEnabled = true)
    {fault : Fault} {session : σ} {world : ω}
    (answer : firstAnswer ch (.nodes .any) scene = (.error fault, session, world)) :
    extendNodes ch scene =
      (.error (fault.onErrand .extendNodes),
        scene.asked (.nodes .any) (.error fault) [] (ch.stop session world).2) := by
  have said := inSession_heard (Roster.discover_failed on answer)
  simp [extendNodes, currentRoster, Attempt.bind_apply, on, said]

/-- Everything that growth can do. -/
theorem extendNodes_cases (ch : Channel σ ω) (scene : Scene ω) :
    (scene.negotiation.roster.discoveryEnabled = false ∧
      extendNodes ch scene = (.ok none, scene)) ∨
    (scene.negotiation.roster.discoveryEnabled = true ∧ ∃ found session world,
      firstAnswer ch (.nodes .any) scene = (.ok found, session, world) ∧
      extendNodes ch scene =
        (.ok (some found),
          (scene.asked (.nodes .any) (.ok found) [.discovered found]
          (ch.stop session world).2).withRoster
            (scene.negotiation.roster.extend found))) ∨
    (scene.negotiation.roster.discoveryEnabled = true ∧ ∃ fault session world,
      firstAnswer ch (.nodes .any) scene = (.error fault, session, world) ∧
      extendNodes ch scene =
        (.error (fault.onErrand .extendNodes),
          scene.asked (.nodes .any) (.error fault) [] (ch.stop session world).2)) := by
  cases on : scene.negotiation.roster.discoveryEnabled with
  | false => exact .inl ⟨rfl, extendNodes_off on⟩
  | true =>
    rcases answer : firstAnswer ch (.nodes .any) scene with ⟨fault | found, session, world⟩
    · exact .inr (.inr ⟨rfl, fault, session, world, rfl, extendNodes_failed on answer⟩)
    · exact .inr (.inl ⟨rfl, found, session, world, rfl, extendNodes_answered on answer⟩)

/-! ## Narrowing -/

section Narrowing

variable {role : Role} (restricted : scene.negotiation.roster.restriction = some role)
include restricted

theorem restrict_eq :
    scene.negotiation.roster.restrict ch =
      Roster.restrictTo ch role scene.negotiation.roster := by
  rw [Roster.restrict, restricted]

theorem narrowNodes_of_ok {narrowed : Roster} {after : Scene ω}
    (said : inSession ch (Roster.restrictTo ch role scene.negotiation.roster) scene =
      (.ok narrowed, after)) :
    narrowNodes ch scene = (.ok (), after.withRoster narrowed) := by
  rw [← restrict_eq restricted] at said
  simp [narrowNodes, currentRoster, Attempt.bind_apply, restricted, said, settleRoster,
    Scene.withRoster]

theorem narrowNodes_of_error {fault : Fault} {after : Scene ω}
    (said : inSession ch (Roster.restrictTo ch role scene.negotiation.roster) scene =
      (.error fault, after)) :
    narrowNodes ch scene = (.error fault, after) := by
  rw [← restrict_eq restricted] at said
  simp [narrowNodes, currentRoster, Attempt.bind_apply, restricted, said]

theorem narrowNodes_narrowed (proper : role ≠ .any) {listed : List String} {session : σ}
    {world : ω} {narrowed : Roster}
    (answer : firstAnswer ch (.nodes role) scene = (.ok listed, session, world))
    (left : scene.negotiation.roster.narrow role listed = .ok narrowed) :
    narrowNodes ch scene =
      (.ok (),
        (scene.asked (.nodes role) (.ok listed)
          (Roster.narrowingNotes scene.negotiation.roster role listed)
          (ch.stop session world).2).withRoster
          narrowed) := by
  have said :=
    inSession_heard (Roster.restrictTo_answered proper scene.negotiation.roster answer)
  rw [left] at said
  exact narrowNodes_of_ok restricted said

theorem narrowNodes_short (proper : role ≠ .any) {listed : List String} {session : σ} {world : ω}
    {shortage : Shortage}
    (answer : firstAnswer ch (.nodes role) scene = (.ok listed, session, world))
    (short : scene.negotiation.roster.narrow role listed = .error shortage) :
    narrowNodes ch scene =
      (.error (.shortage shortage),
        scene.asked (.nodes role) (.ok listed)
          (Roster.narrowingNotes scene.negotiation.roster role listed)
          (ch.stop session world).2) := by
  have said :=
    inSession_heard (Roster.restrictTo_answered proper scene.negotiation.roster answer)
  rw [short] at said
  exact narrowNodes_of_error restricted said

theorem narrowNodes_failed (proper : role ≠ .any) {fault : Fault} {session : σ} {world : ω}
    (answer : firstAnswer ch (.nodes role) scene = (.error fault, session, world)) :
    narrowNodes ch scene =
      (.error (fault.onErrand (.listNodes role)),
        scene.asked (.nodes role) (.error fault) [] (ch.stop session world).2) :=
  narrowNodes_of_error restricted
    (inSession_heard (Roster.restrictTo_failed proper _ answer))

end Narrowing

theorem narrowNodes_off (off : scene.negotiation.roster.restriction = none) :
    narrowNodes ch scene = (.ok (), scene) := by
  simp [narrowNodes, currentRoster, Attempt.bind_apply, off]

/-- Nodes are not narrowed to any role, and the cluster is not asked. -/
theorem narrowNodes_any (restricted : scene.negotiation.roster.restriction = some .any) :
    (narrowNodes ch scene).1 = .error (.value .anyRole) ∧
      (narrowNodes ch scene).2.negotiation = scene.negotiation ∧
      (narrowNodes ch scene).2.desk.settings = scene.desk.settings := by
  have said : inSession ch (Roster.restrictTo ch .any scene.negotiation.roster) scene = _ :=
    inSession_of (Roster.restrictTo_any scene.negotiation.roster)
  rw [narrowNodes_of_error restricted said]
  exact ⟨rfl, rfl, rfl⟩

/-- Everything that narrowing can do. -/
theorem narrowNodes_cases (ch : Channel σ ω) (scene : Scene ω) :
    (scene.negotiation.roster.restriction = none ∧ narrowNodes ch scene = (.ok (), scene)) ∨
    (∃ role listed session world narrowed,
      scene.negotiation.roster.restriction = some role ∧
      firstAnswer ch (.nodes role) scene = (.ok listed, session, world) ∧
      scene.negotiation.roster.narrow role listed = .ok narrowed ∧
      narrowNodes ch scene =
        (.ok (),
          (scene.asked (.nodes role) (.ok listed)
            (Roster.narrowingNotes scene.negotiation.roster role listed)
          (ch.stop session world).2).withRoster
            narrowed)) ∨
    (scene.negotiation.roster.restriction ≠ none ∧ ∃ fault,
      (narrowNodes ch scene).1 = .error fault ∧
      (narrowNodes ch scene).2.negotiation = scene.negotiation ∧
      (narrowNodes ch scene).2.desk.settings = scene.desk.settings) := by
  cases restricted : scene.negotiation.roster.restriction with
  | none => exact .inl ⟨rfl, narrowNodes_off restricted⟩
  | some role =>
    by_cases proper : role = .any
    · subst proper
      exact .inr (.inr ⟨by simp, _, narrowNodes_any restricted⟩)
    rcases answer : firstAnswer ch (.nodes role) scene with ⟨fault | listed, session, world⟩
    · have failed := narrowNodes_failed restricted proper answer
      refine .inr (.inr ⟨by simp, fault.onErrand (.listNodes role), ?_⟩)
      rw [failed]
      exact ⟨rfl, rfl, rfl⟩
    · cases left : scene.negotiation.roster.narrow role listed with
      | error shortage =>
        have short := narrowNodes_short restricted proper answer left
        refine .inr (.inr ⟨by simp, .shortage shortage, ?_⟩)
        rw [short]
        exact ⟨rfl, rfl, rfl⟩
      | ok narrowed =>
        exact .inr (.inl ⟨role, listed, session, world, narrowed, rfl, answer, left,
          narrowNodes_narrowed restricted proper answer left⟩)

/-! ## The other steps -/

theorem inSession_fst (talk : Attempt (Conversation σ ω) α) :
    (inSession ch talk scene).1 = (talk (opened ch scene)).1 := rfl

@[simp] theorem inSession_negotiation (talk : Attempt (Conversation σ ω) α) :
    (inSession ch talk scene).2.negotiation = scene.negotiation := rfl

@[simp] theorem inSession_settings (talk : Attempt (Conversation σ ω) α) :
    (inSession ch talk scene).2.desk.settings = scene.desk.settings := rfl

theorem checkSettings_eq : checkSettings scene = (scene.desk.settings.validate, scene) := rfl

theorem clearWriting_eq :
    clearWriting ch scene =
      match Check.documentId scene.desk.settings with
      | .ok () => inSession ch (Check.writing ch scene.desk.settings) scene
      | .error fault => (.error fault, scene) := by
  cases outcome : Check.documentId scene.desk.settings with
  | ok u => simp [clearWriting, currentSettings, Attempt.bind_apply, outcome]
  | error fault => simp [clearWriting, currentSettings, Attempt.bind_apply, outcome]

theorem findVersion_eq :
    findVersion ch scene =
      match inSession ch (Check.version ch scene.desk.settings) scene with
      | (.ok (v, s), after) =>
        (.ok v,
          { desk := { after.desk with settings := s }
            negotiation := { after.negotiation with version := some v } })
      | (.error fault, after) => (.error fault, after) := by
  rcases said : inSession ch (Check.version ch scene.desk.settings) scene
    with ⟨fault | ⟨v, s⟩, after⟩
  · simp [findVersion, currentSettings, Attempt.bind_apply, said]
  · simp [findVersion, currentSettings, Attempt.bind_apply, said, settleVersion]

end Negotiation

end Clearance
