import Clearance.Proofs.Negotiation.Steps

/-!
# Runs of a negotiation

A whole negotiation is made of single steps, its phases, of which it takes as many as succeed. So
what every single step keeps is kept by a whole negotiation, and by every run of steps whatsoever.

Results:
1. `Moves`, `Single`, `take_single`: what a single step does to the roster and the settings.
2. `settle_eq`: a whole negotiation takes its phases in order and stops at the first that fails.
3. `run_keeps`: what every single step keeps is kept by every run.
4. `run_settings`: a run writes nothing in the settings but the recorded version.
-/

namespace Clearance.Negotiation

open Cluster (Channel)

variable {σ ω : Type}

/-- What one step may do to the roster of a scene, by what the cluster answers first. -/
inductive Moves (ch : Channel σ ω) (scene : Scene ω) : Roster → Prop
  | stays : Moves ch scene scene.negotiation.roster
  | grows {found : List String} {session : σ} {world : ω}
      (on : scene.negotiation.roster.discoveryEnabled = true)
      (answer : firstAnswer ch (.nodes .any) scene = (.ok found, session, world)) :
      Moves ch scene (scene.negotiation.roster.extend found)
  | narrows {role : Role} {listed : List String} {session : σ} {world : ω} {narrowed : Roster}
      (restricted : scene.negotiation.roster.restriction = some role)
      (answer : firstAnswer ch (.nodes role) scene = (.ok listed, session, world))
      (left : scene.negotiation.roster.narrow role listed = .ok narrowed) :
      Moves ch scene narrowed

variable {ch : Channel σ ω} {scene : Scene ω}

/-- The steps that open no more than a session leave the roster alone. -/
theorem findVersion_roster :
    (findVersion ch scene).2.negotiation.roster = scene.negotiation.roster := by
  rw [findVersion_eq]
  have frame : (inSession ch (Check.version ch scene.desk.settings) scene).2.negotiation = _ :=
    inSession_negotiation (Check.version ch scene.desk.settings)
  split
  · next said =>
    rw [said] at frame
    rw [frame]
  · next said =>
    rw [said] at frame
    rw [frame]

theorem findVersion_version {v : Version} {after : Scene ω}
    (found : findVersion ch scene = (.ok v, after)) : after.negotiation.version = some v := by
  rw [findVersion_eq] at found
  split at found
  · cases found
    rfl
  · cases found

/-! ## Phases -/

/-- The single steps that a whole negotiation consists of. -/
def phases (s : Settings) : List Step :=
  if (stated s.clusterName).isSome then
    [.checkSettings, .checkName, .extendNodes, .narrowNodes, .findVersion]
  else [.checkSettings, .extendNodes, .narrowNodes, .findVersion]

/-- Takes steps one after the other; the first one that fails ends the sequence. -/
def takeAll (ch : Channel σ ω) : List Step → Attempt (Scene ω) Unit
  | [] => pure ()
  | step :: rest => do
    let _ ← step.take ch
    takeAll ch rest

/-- What a whole negotiation ends with. -/
def conclude : Attempt (Scene ω) (List String) := do
  let n := (← Attempt.get).negotiation
  if let some v := n.version then say (.cleared n.roster.workingSet v)
  return n.roster.workingSet

theorem takeAll_of_ok {step : Step} {rest : List Step} {reply : Reply} {after : Scene ω}
    (taken : step.take ch scene = (.ok reply, after)) :
    takeAll ch (step :: rest) scene = takeAll ch rest after := by
  rw [takeAll, Attempt.bind_of_ok taken]

theorem takeAll_of_error {step : Step} {rest : List Step} {fault : Fault} {after : Scene ω}
    (taken : step.take ch scene = (.error fault, after)) :
    takeAll ch (step :: rest) scene = (.error fault, after) := by
  rw [takeAll, Attempt.bind_of_error taken]

theorem takeAll_append (steps more : List Step) :
    takeAll ch (steps ++ more) = (takeAll ch steps >>= fun _ => takeAll ch more) := by
  funext scene
  induction steps generalizing scene with
  | nil => rfl
  | cons step rest ih =>
    rw [List.cons_append]
    rcases taken : step.take ch scene with ⟨fault | reply, after⟩
    · rw [takeAll_of_error taken, Attempt.bind_of_error (takeAll_of_error taken)]
    · rw [takeAll_of_ok taken, ih, Attempt.bind_apply, Attempt.bind_apply, takeAll_of_ok taken]

/-- What follows the checks of a whole negotiation. -/
theorem settle_rest :
    (do
      let _ ← extendNodes ch
      narrowNodes ch
      let v ← findVersion ch
      say (.cleared (← currentRoster).workingSet v)
      return (← currentRoster).workingSet) scene =
    (takeAll ch [.extendNodes, .narrowNodes, .findVersion] >>= fun _ => conclude) scene := by
  simp only [takeAll, Step.take, Attempt.bind_apply]
  rcases extendNodes ch scene with ⟨fault | found, grown⟩
  · rfl
  dsimp only [Attempt.pure_apply]
  rcases narrowNodes ch grown with ⟨fault | u, narrowed⟩
  · rfl
  dsimp only [Attempt.pure_apply]
  rcases settled : findVersion ch narrowed with ⟨fault | v, after⟩
  · rfl
  have version := findVersion_version settled
  simp [conclude, currentRoster, say, Attempt.bind_apply, version]

/-- A whole negotiation takes its phases in order and stops at the first one that fails. -/
theorem settle_eq :
    settle ch scene = (takeAll ch (phases scene.desk.settings) >>= fun _ => conclude) scene := by
  -- The settings are checked first, and they are not changed until the name has been checked.
  cases valid : scene.desk.settings.validate with
  | error fault =>
    have refused : Step.checkSettings.take ch scene = (.error fault, scene) := by
      simp [Step.take, Attempt.bind_apply, checkSettings_eq, valid]
    have stopped : takeAll ch (phases scene.desk.settings) scene = (.error fault, scene) := by
      rw [phases]
      split
      all_goals exact takeAll_of_error refused
    rw [Attempt.bind_of_error stopped]
    simp [settle, Attempt.bind_apply, checkSettings_eq, valid]
  | ok u =>
    have passed : Step.checkSettings.take ch scene = (.ok .done, scene) := by
      simp [Step.take, Attempt.bind_apply, checkSettings_eq, valid]
    cases named : (stated scene.desk.settings.clusterName).isSome with
    | false =>
      have phasesEq : takeAll ch (phases scene.desk.settings) scene =
          takeAll ch [.extendNodes, .narrowNodes, .findVersion] scene := by
        simp only [phases, named]
        exact takeAll_of_ok passed
      rw [Attempt.bind_apply, phasesEq, ← Attempt.bind_apply, ← settle_rest]
      simp [settle, currentSettings, Attempt.bind_apply, checkSettings_eq, valid, named]
    | true =>
      have phasesEq : takeAll ch (phases scene.desk.settings) scene =
          takeAll ch [.checkName, .extendNodes, .narrowNodes, .findVersion] scene := by
        simp only [phases, named, if_true]
        exact takeAll_of_ok passed
      rw [Attempt.bind_apply, phasesEq, ← Attempt.bind_apply]
      rcases checked : checkName ch scene with ⟨fault | u, after⟩
      · have refused : Step.checkName.take ch scene = (.error fault, after) := by
          simp [Step.take, Attempt.bind_apply, checked]
        rw [Attempt.bind_of_error (takeAll_of_error refused)]
        simp [settle, currentSettings, Attempt.bind_apply, checkSettings_eq, valid, named, checked]
      · have kept : Step.checkName.take ch scene = (.ok .done, after) := by
          simp [Step.take, Attempt.bind_apply, checked]
        rw [Attempt.bind_apply, takeAll_of_ok kept, ← Attempt.bind_apply, ← settle_rest]
        simp [settle, currentSettings, Attempt.bind_apply, checkSettings_eq, valid, named, checked]

/-! ## Single steps -/

/-- The second settings are the first ones, but for the recorded version. -/
def Recorded (s t : Settings) : Prop :=
  ∃ recorded, t = { s with recordedVersion := recorded }

theorem Recorded.refl (s : Settings) : Recorded s s :=
  ⟨s.recordedVersion, rfl⟩

theorem Recorded.trans {s t u : Settings} (first : Recorded s t) (second : Recorded t u) :
    Recorded s u := by
  obtain ⟨v, rfl⟩ := first
  obtain ⟨w, rfl⟩ := second
  exact ⟨w, rfl⟩

/-- Everything that a step other than a whole negotiation does to the roster and the settings. -/
structure Single (ch : Channel σ ω) (scene : Scene ω) (step : Step) : Prop where
  moves : Moves ch scene (step.take ch scene).2.negotiation.roster
  failed : ∀ {fault}, (step.take ch scene).1 = .error fault →
    (step.take ch scene).2.negotiation.roster = scene.negotiation.roster
  untouched : step ≠ .extendNodes → step ≠ .narrowNodes →
    (step.take ch scene).2.negotiation.roster = scene.negotiation.roster
  settings : Recorded scene.desk.settings (step.take ch scene).2.desk.settings

section Framed

variable {α : Type} {step : Step} {x : Attempt (Scene ω) α} {answer : α → Reply}
  (taken : step.take ch = do return answer (← x))
include taken

theorem Single.of_roster
    (same : (x scene).2.negotiation.roster = scene.negotiation.roster)
    (settings : Recorded scene.desk.settings (x scene).2.desk.settings) :
    Single ch scene step := by
  have after : (step.take ch scene).2 = (x scene).2 := by rw [taken, Attempt.bind_pure_apply]
  constructor
  · rw [after, same]
    exact .stays
  · intro fault _
    rw [after, same]
  · intro _ _
    rw [after, same]
  · rw [after]
    exact settings

/-- A step that leaves the negotiation and the settings alone, such as a check in a session. -/
theorem Single.of_frame (negotiation : (x scene).2.negotiation = scene.negotiation)
    (settings : (x scene).2.desk.settings = scene.desk.settings) : Single ch scene step := by
  refine .of_roster taken (by rw [negotiation]) ?_
  rw [settings]
  exact .refl _

end Framed

theorem findVersion_settings :
    Recorded scene.desk.settings (findVersion ch scene).2.desk.settings := by
  have frame : (inSession ch (Check.version ch scene.desk.settings) scene).2.desk.settings = _ :=
    inSession_settings (Check.version ch scene.desk.settings)
  have told : (inSession ch (Check.version ch scene.desk.settings) scene).1 = _ :=
    inSession_fst (Check.version ch scene.desk.settings)
  rw [findVersion_eq]
  split
  · next v s after said =>
    rw [said] at told
    exact Check.version_settings told.symm
  · next said =>
    rw [said] at frame
    rw [frame]
    exact .refl _

theorem extendNodes_single : Single ch scene .extendNodes := by
  rcases extendNodes_cases ch scene with
    ⟨-, same⟩ | ⟨on, found, session, world, answer, grown⟩ | ⟨-, fault, session, world, -, same⟩
  · exact .of_frame rfl (by rw [same]) (by rw [same])
  · have taken := Attempt.bind_pure_apply (extendNodes ch) Reply.found scene
    rw [grown] at taken
    constructor
    · rw [Step.take, taken]
      exact .grows on answer
    · intro fault failed
      rw [Step.take, taken] at failed
      cases failed
    · intro noGrowth
      exact absurd rfl noGrowth
    · rw [Step.take, taken]
      exact .refl _
  · exact .of_frame rfl (by rw [same]; rfl) (by rw [same]; rfl)

theorem narrowNodes_single : Single ch scene .narrowNodes := by
  rcases narrowNodes_cases ch scene with
    ⟨-, same⟩ | ⟨role, listed, session, world, u, restricted, answer, left, narrowed⟩ |
      ⟨-, fault, -, negotiation, settings⟩
  · exact .of_frame rfl (by rw [same]) (by rw [same])
  · have taken := Attempt.bind_pure_apply (narrowNodes ch) (fun _ => Reply.done) scene
    rw [narrowed] at taken
    constructor
    · rw [Step.take, taken]
      exact .narrows restricted answer left
    · intro fault failed
      rw [Step.take, taken] at failed
      cases failed
    · intro _ noNarrowing
      exact absurd rfl noNarrowing
    · rw [Step.take, taken]
      exact .refl _
  · exact .of_frame rfl negotiation settings

theorem clearWriting_frame :
    (clearWriting ch scene).2.negotiation = scene.negotiation ∧
      (clearWriting ch scene).2.desk.settings = scene.desk.settings := by
  rw [clearWriting_eq]
  split
  · exact ⟨rfl, rfl⟩
  · exact ⟨rfl, rfl⟩

theorem take_single {step : Step} (single : step ≠ .settle) : Single ch scene step := by
  cases step with
  | settle => exact absurd rfl single
  | extendNodes => exact extendNodes_single
  | narrowNodes => exact narrowNodes_single
  | findVersion => exact .of_roster rfl findVersion_roster findVersion_settings
  -- A check leaves everything but the journal and the world alone.
  | checkSettings | checkName | clearReading => exact .of_frame rfl rfl rfl
  | clearWriting => exact .of_frame rfl clearWriting_frame.1 clearWriting_frame.2

/-! ## Runs -/

theorem phases_single {s : Settings} {step : Step} (phase : step ∈ phases s) :
    step ≠ .settle := by
  rintro rfl
  rw [phases] at phase
  split at phase
  all_goals simp at phase

theorem conclude_negotiation : (conclude scene).2.negotiation = scene.negotiation := by
  rcases scene with ⟨desk, ⟨roster, _ | v⟩⟩
  all_goals rfl

theorem conclude_settings : (conclude scene).2.desk.settings = scene.desk.settings := by
  rcases scene with ⟨desk, ⟨roster, _ | v⟩⟩
  all_goals rfl

/-- Steps that are taken until one fails are a run of those that were taken, the failed one
included. -/
theorem takeAll_run (steps : List Step) :
    ∃ taken, taken <+: steps ∧ (takeAll ch steps scene).2 = run ch taken scene := by
  induction steps generalizing scene with
  | nil => exact ⟨[], List.prefix_rfl, rfl⟩
  | cons step rest ih =>
    rcases taking : step.take ch scene with ⟨fault | reply, after⟩
    · refine ⟨[step], List.prefix_append [step] rest, ?_⟩
      rw [takeAll_of_error taking, run, run, taking]
    · obtain ⟨taken, early, same⟩ := @ih after
      refine ⟨step :: taken, List.cons_prefix_cons.mpr ⟨rfl, early⟩, ?_⟩
      rw [takeAll_of_ok taking, same, run, taking]

theorem settle_run (ch : Channel σ ω) (scene : Scene ω) :
    ∃ taken, taken <+: phases scene.desk.settings ∧
      ((settle ch scene).2 = run ch taken scene ∨
        (settle ch scene).2 = (conclude (run ch taken scene)).2) := by
  obtain ⟨taken, early, same⟩ := takeAll_run (phases scene.desk.settings)
  refine ⟨taken, early, ?_⟩
  rw [settle_eq, ← same, Attempt.bind_apply]
  rcases takeAll ch (phases scene.desk.settings) scene with ⟨fault | u, after⟩
  · exact .inl rfl
  · exact .inr rfl

section Keeping

variable {P : Scene ω → Prop}
  (kept : ∀ scene step, step ≠ .settle → P scene → P (Step.take ch step scene).2)
include kept

theorem singles_keep {steps : List Step} (singles : ∀ step ∈ steps, step ≠ .settle)
    (start : P scene) : P (run ch steps scene) := by
  induction steps generalizing scene with
  | nil => exact start
  | cons step rest ih =>
    exact ih (fun later present => singles later (List.mem_cons_of_mem _ present))
      (kept scene step (singles step List.mem_cons_self) start)

variable (concluded : ∀ scene, P scene → P (conclude scene).2)
include concluded

/-- What every single step keeps is kept by a whole negotiation, whose phases are single steps. -/
theorem take_keeps (step : Step) (start : P scene) : P (step.take ch scene).2 := by
  by_cases whole : step = .settle
  · subst whole
    -- A whole negotiation is a run of single steps, but for the note that it ends with.
    obtain ⟨taken, early, same⟩ := settle_run ch scene
    have phased : P (run ch taken scene) :=
      singles_keep kept (fun step present => phases_single (early.subset present)) start
    rw [Step.take, Attempt.bind_pure_apply]
    rcases same with stopped | finished
    · rw [stopped]
      exact phased
    · rw [finished]
      exact concluded _ phased
  · exact kept scene step whole start

theorem run_keeps (steps : List Step) (start : P scene) : P (run ch steps scene) := by
  induction steps generalizing scene with
  | nil => exact start
  | cons step rest ih => exact ih (take_keeps kept concluded step start)

end Keeping

theorem run_settings (steps : List Step) :
    Recorded scene.desk.settings (run ch steps scene).desk.settings := by
  refine run_keeps (P := fun now => Recorded scene.desk.settings now.desk.settings)
    (fun now step single soFar => soFar.trans (take_single single).settings) (fun now soFar => ?_)
    steps (.refl _)
  rw [conclude_settings]
  exact soFar

end Clearance.Negotiation
