import Clearance.Proofs.Negotiation.Visits

/-!
# The course of a whole negotiation

A whole negotiation goes through its phases in order and stops in the first one that fails. Which
nodes a phase visits and what it asks there is known as soon as the working sets after growth and
after narrowing are; so the visits of a negotiation are those of its course, cut after the phase
that failed.

Results:
1. `takeAll_split`: steps that are taken in turn are completed up to the first that fails.
2. `plan_phases`: the phases with what they visit the cluster for are the course.
3. `settle_visits`: the visits of a whole negotiation are a first part of its course.
4. `settle_course`: where a whole negotiation gets to, with what it has asked and what it leaves.
-/

namespace Clearance.Negotiation

open Cluster (Aim Channel Visit)

variable {σ ω : Type} {ch : Channel σ ω} {scene : Scene ω}

/-- A phase of a whole negotiation, and what the cluster is visited for in it. -/
structure Stage where
  phase : Step
  aims : List Aim
  deriving DecidableEq, Repr

/-- The course of a whole negotiation: what the cluster is visited for in each phase, if the working
set is `grown` after growth and `narrowed` after narrowing. -/
def course (s : Settings) (r : Roster) (grown narrowed : List String) : List Stage :=
  ⟨.checkSettings, []⟩ ::
    ((if (stated s.clusterName).isSome then [⟨.checkName, [⟨r.workingSet, [.name]⟩]⟩] else []) ++
      [⟨.extendNodes, if r.discoveryEnabled then [⟨r.workingSet, [.nodes .any]⟩] else []⟩,
        ⟨.narrowNodes, r.restriction.toList.map fun role => ⟨grown, narrowingQueries role⟩⟩,
        ⟨.findVersion,
          [⟨narrowed, if (stated s.recordedVersion).isSome then [] else [.version]⟩]⟩])

/-- The working set after some phases. -/
def reached (first grown narrowed : List String) (taken : List Step) : List String :=
  if .narrowNodes ∈ taken then narrowed else if .extendNodes ∈ taken then grown else first

/-! ## Steps in turn -/

/-- The steps all succeed if they are taken one after the other. -/
def Succeed (ch : Channel σ ω) : List Step → Scene ω → Prop
  | [], _ => True
  | step :: rest, scene =>
    (∃ reply, (step.take ch scene).1 = .ok reply) ∧ Succeed ch rest (step.take ch scene).2

theorem run_append (steps more : List Step) (scene : Scene ω) :
    run ch (steps ++ more) scene = run ch more (run ch steps scene) := by
  induction steps generalizing scene with
  | nil => rfl
  | cons step rest ih => exact ih _

/-- Either all steps are completed, or there is a first one that fails, and its fault is told. -/
theorem takeAll_split (ch : Channel σ ω) (steps : List Step) (scene : Scene ω) :
    ∃ completed ahead, steps = completed ++ ahead ∧ Succeed ch completed scene ∧
      (takeAll ch steps scene).2 = run ch (completed ++ ahead.take 1) scene ∧
      (ahead = [] → (takeAll ch steps scene).1 = .ok ()) ∧
      ∀ {step rest}, ahead = step :: rest → ∃ fault,
        (step.take ch (run ch completed scene)).1 = .error fault ∧
          (takeAll ch steps scene).1 = .error fault := by
  induction steps generalizing scene with
  | nil => exact ⟨[], [], rfl, trivial, rfl, fun _ => rfl, nofun⟩
  | cons step rest ih =>
    rcases taken : step.take ch scene with ⟨fault | reply, after⟩
    · refine ⟨[], step :: rest, rfl, trivial, ?_, nofun, ?_⟩
      · rw [takeAll_of_error taken]
        simp [run, taken]
      · intro step' rest' same
        cases same
        refine ⟨fault, ?_, ?_⟩
        · rw [run, taken]
        · rw [takeAll_of_error taken]
    · obtain ⟨completed, ahead, split, succeed, left, returned, failed⟩ := ih after
      have goesOn : ∀ more, run ch (step :: more) scene = run ch more after := by
        intro more
        rw [run, taken]
      refine ⟨step :: completed, ahead, by rw [split]; rfl, ⟨⟨reply, by rw [taken]⟩, ?_⟩, ?_⟩
      · rw [taken]
        exact succeed
      · rw [takeAll_of_ok taken, List.cons_append, goesOn, goesOn]
        exact ⟨left, returned, failed⟩

/-! ## The plan -/

/-- The steps, with what the cluster is visited for in each if they are taken in turn. -/
def plan (ch : Channel σ ω) : List Step → Scene ω → List Stage
  | [], _ => []
  | step :: rest, scene => ⟨step, aims scene step⟩ :: plan ch rest (step.take ch scene).2

theorem plan_append (steps more : List Step) (scene : Scene ω) :
    plan ch (steps ++ more) scene = plan ch steps scene ++ plan ch more (run ch steps scene) := by
  induction steps generalizing scene with
  | nil => rfl
  | cons step rest ih => exact congrArg _ (ih _)

theorem plan_phase (steps : List Step) (scene : Scene ω) :
    (plan ch steps scene).map Stage.phase = steps := by
  induction steps generalizing scene with
  | nil => rfl
  | cons step rest ih => exact congrArg _ (ih _)

theorem plan_take_one (steps : List Step) (scene : Scene ω) :
    plan ch (steps.take 1) scene = (plan ch steps scene).take 1 := by
  cases steps <;> rfl

theorem phases_recorded {s t : Settings} (same : Recorded s t) : phases t = phases s := by
  obtain ⟨recorded, rfl⟩ := same
  rfl

/-- Phases that are taken one after the other visit the cluster as planned. -/
theorem run_visits (ch : Channel σ ω) {s : Settings}
    (recorded : Recorded s scene.desk.settings) {steps : List Step}
    (subset : ∀ step ∈ steps, step ∈ phases s) :
    ∃ visits, Visited scene visits (run ch steps scene) ∧
      visits.map Visit.aim = (plan ch steps scene).flatMap Stage.aims := by
  induction steps generalizing scene with
  | nil => exact ⟨[], .none scene, rfl⟩
  | cons step rest ih =>
    have phase : step ∈ phases scene.desk.settings := by
      rw [phases_recorded recorded]
      exact subset step List.mem_cons_self
    have single : Single ch scene step := take_single (phases_single phase)
    obtain ⟨visits, visited, same⟩ := take_visits phase ch
    obtain ⟨more, visitedLater, sameLater⟩ := ih (recorded.trans single.settings)
      fun later present => subset later (List.mem_cons_of_mem _ present)
    refine ⟨visits ++ more, visited.append visitedLater, ?_⟩
    rw [List.map_append, same, sameLater]
    rfl

/-! ## The phases -/

/-- The phases before growth. -/
def checks (s : Settings) : List Step :=
  if (stated s.clusterName).isSome then [.checkSettings, .checkName] else [.checkSettings]

theorem phases_eq (s : Settings) :
    phases s = checks s ++ [.extendNodes, .narrowNodes, .findVersion] := by
  rw [phases, checks]
  split <;> rfl

theorem checkSettings_snd (ch : Channel σ ω) (scene : Scene ω) :
    (Step.checkSettings.take ch scene).2 = scene := by
  rw [Step.take, Attempt.bind_pure_apply]
  rfl

theorem checkName_frame (ch : Channel σ ω) (scene : Scene ω) :
    (Step.checkName.take ch scene).2.negotiation = scene.negotiation ∧
      (Step.checkName.take ch scene).2.desk.settings = scene.desk.settings := by
  rw [Step.take, Attempt.bind_pure_apply]
  exact ⟨rfl, rfl⟩

theorem mem_checks {s : Settings} {step : Step} (present : step ∈ checks s) :
    step = .checkSettings ∨ step = .checkName := by
  rw [checks] at present
  split at present
  all_goals simp at present
  · exact present
  · exact .inl present

theorem run_checks (ch : Channel σ ω) {steps : List Step}
    (only : ∀ step ∈ steps, step = .checkSettings ∨ step = .checkName) (scene : Scene ω) :
    (run ch steps scene).negotiation = scene.negotiation ∧
      (run ch steps scene).desk.settings = scene.desk.settings := by
  induction steps generalizing scene with
  | nil => exact ⟨rfl, rfl⟩
  | cons step rest ih =>
    have onlyLater : ∀ step ∈ rest, step = .checkSettings ∨ step = .checkName :=
      fun later present => only later (List.mem_cons_of_mem _ present)
    rcases only step List.mem_cons_self with rfl | rfl
    · rw [run, checkSettings_snd]
      exact ih onlyLater scene
    · obtain ⟨negotiation, settings⟩ := checkName_frame ch scene
      rw [run, ← negotiation, ← settings]
      exact ih onlyLater _

theorem extendNodes_frame (ch : Channel σ ω) (scene : Scene ω) :
    (Step.extendNodes.take ch scene).2.desk.settings = scene.desk.settings ∧
      (Step.extendNodes.take ch scene).2.negotiation.roster.restriction =
        scene.negotiation.roster.restriction := by
  rw [Step.take, Attempt.bind_pure_apply]
  rcases extendNodes_cases ch scene with
    ⟨-, same⟩ | ⟨-, found, session, world, -, same⟩ | ⟨-, fault, session, world, -, same⟩
  all_goals
    rw [same]
    exact ⟨rfl, rfl⟩

theorem narrowNodes_frame (ch : Channel σ ω) (scene : Scene ω) :
    (Step.narrowNodes.take ch scene).2.desk.settings = scene.desk.settings := by
  rw [Step.take, Attempt.bind_pure_apply]
  rcases narrowNodes_cases ch scene with
    ⟨-, same⟩ | ⟨role, listed, session, world, u, -, -, -, same⟩ | ⟨-, fault, -, -, settings⟩
  · rw [same]
  · rw [same]
    rfl
  · exact settings

theorem plan_checks (s : Settings) (scene : Scene ω) :
    plan ch (checks s) scene =
      ⟨.checkSettings, []⟩ :: if (stated s.clusterName).isSome then
        [⟨.checkName, [⟨scene.negotiation.roster.workingSet, [.name]⟩]⟩] else [] := by
  rw [checks]
  split
  · rw [plan, plan, plan, checkSettings_snd]
    rfl
  · rfl

/-- The working set after growth, if a negotiation that begins at the scene gets that far. -/
def grownSet (ch : Channel σ ω) (scene : Scene ω) : List String :=
  (run ch (checks scene.desk.settings ++ [.extendNodes]) scene).negotiation.roster.workingSet

/-- The working set after narrowing, if a negotiation that begins at the scene gets that far. -/
def narrowedSet (ch : Channel σ ω) (scene : Scene ω) : List String :=
  (run ch (checks scene.desk.settings ++ [.extendNodes, .narrowNodes])
    scene).negotiation.roster.workingSet

theorem plan_phases (ch : Channel σ ω) (scene : Scene ω) :
    plan ch (phases scene.desk.settings) scene =
      course scene.desk.settings scene.negotiation.roster (grownSet ch scene)
        (narrowedSet ch scene) := by
  obtain ⟨negotiation, settings⟩ := run_checks ch (fun _ => mem_checks) scene
  rw [phases_eq, plan_append, plan_checks, course, List.cons_append, grownSet, narrowedSet,
    run_append, run_append]
  generalize run ch (checks scene.desk.settings) scene = checked at negotiation settings ⊢
  obtain ⟨settingsGrown, restriction⟩ := extendNodes_frame ch checked
  have settingsNarrowed := narrowNodes_frame ch (Step.extendNodes.take ch checked).2
  simp only [plan, aims, run, negotiation, restriction, settingsNarrowed, settingsGrown, settings]

/-- Between the phases the working set is as the course has it. -/
theorem run_reached {taken : List Step} (first : taken <+: phases scene.desk.settings) :
    (run ch taken scene).negotiation.roster.workingSet =
      reached scene.negotiation.roster.workingSet (grownSet ch scene) (narrowedSet ch scene)
        taken := by
  have growth : Step.extendNodes ∉ checks scene.desk.settings := by
    intro present
    rcases mem_checks present with same | same <;> cases same
  have narrowing : Step.narrowNodes ∉ checks scene.desk.settings := by
    intro present
    rcases mem_checks present with same | same <;> cases same
  have shape : phases scene.desk.settings =
      checks scene.desk.settings ++ [.extendNodes] ++ [.narrowNodes] ++ [.findVersion] := by
    rw [phases_eq]
    simp
  rw [shape] at first
  rcases List.prefix_concat_iff.mp first with whole | first
  · have last : (run ch taken scene).negotiation.roster.workingSet = narrowedSet ch scene := by
      have shorter : checks scene.desk.settings ++ [.extendNodes] ++ [.narrowNodes] =
          checks scene.desk.settings ++ [.extendNodes, .narrowNodes] := by simp
      rw [narrowedSet, whole, shorter, run_append, run, run, Step.take, Attempt.bind_pure_apply]
      exact congrArg Roster.workingSet findVersion_roster
    rw [last, reached, if_pos (by simp [whole])]
  rcases List.prefix_concat_iff.mp first with whole | first
  · rw [reached, if_pos (by simp [whole]), narrowedSet, whole]
    simp
  rcases List.prefix_concat_iff.mp first with whole | first
  · rw [reached, if_neg (by simp [whole, narrowing]), if_pos (by simp [whole]), grownSet, whole]
  · have before : ∀ step ∈ taken, step ∈ checks scene.desk.settings := fun step present =>
      first.subset present
    obtain ⟨negotiation, -⟩ :=
      run_checks ch (fun step present => mem_checks (before step present)) scene
    rw [negotiation, reached, if_neg fun present => narrowing (before _ present),
      if_neg fun present => growth (before _ present)]

/-! ## Where it gets to -/

theorem conclude_quiet (now : Scene ω) : Visited now [] (conclude now).2 := by
  rcases now with ⟨desk, ⟨roster, _ | v⟩⟩
  all_goals exact .none _

theorem conclude_fst (now : Scene ω) :
    (conclude now).1 = .ok now.negotiation.roster.workingSet := by
  rcases now with ⟨desk, ⟨roster, _ | v⟩⟩
  all_goals rfl

/-- A whole negotiation takes its phases in turn. Nothing but a note follows them. -/
theorem settle_split (ch : Channel σ ω) (scene : Scene ω) :
    ∃ completed ahead, phases scene.desk.settings = completed ++ ahead ∧
      Succeed ch completed scene ∧
      Visited (run ch (completed ++ ahead.take 1) scene) [] (settle ch scene).2 ∧
      (settle ch scene).2.negotiation = (run ch (completed ++ ahead.take 1) scene).negotiation ∧
      (ahead = [] → (settle ch scene).1 =
        .ok (run ch completed scene).negotiation.roster.workingSet) ∧
      ∀ {step rest}, ahead = step :: rest → ∃ fault,
        (step.take ch (run ch completed scene)).1 = .error fault ∧
          (settle ch scene).1 = .error fault := by
  obtain ⟨completed, ahead, split, succeed, left, returned, failed⟩ :=
    takeAll_split ch (phases scene.desk.settings) scene
  refine ⟨completed, ahead, split, succeed, ?_⟩
  rw [settle_eq]
  rcases taken : takeAll ch (phases scene.desk.settings) scene with ⟨fault | u, after⟩
  · rw [taken] at left returned failed
    rw [Attempt.bind_of_error taken, ← left]
    refine ⟨.none after, rfl, fun finished => ?_, fun goesOn => ?_⟩
    · cases returned finished
    · obtain ⟨_, first, same⟩ := failed goesOn
      cases same
      exact ⟨fault, first, rfl⟩
  · rw [taken] at left returned failed
    rw [Attempt.bind_of_ok taken, ← left]
    refine ⟨conclude_quiet after, conclude_negotiation, fun finished => ?_, fun goesOn => ?_⟩
    · subst finished
      rw [List.take_nil, List.append_nil] at left
      rw [conclude_fst, ← left]
    · obtain ⟨fault, -, same⟩ := failed goesOn
      cases same

/-- The version is the one that the settings record, or else the last question was for it and this
is what the cluster told. -/
def Resolved (s : Settings) (events : List Cluster.Event) (v : Version) : Prop :=
  match stated s.recordedVersion with
  | some recorded => Version.read recorded = .ok v
  | none => [.asked .version (.ok v), .closed] <:+ events

theorem findVersion_resolved {v : Version} {after : Scene ω}
    (found : findVersion ch scene = (.ok v, after)) :
    Resolved scene.desk.settings after.desk.journal.events v := by
  rw [findVersion_eq] at found
  rw [Resolved]
  cases known : stated scene.desk.settings.recordedVersion with
  | some recorded =>
    rw [inSession_of (Check.version_recorded known)] at found
    cases read : Version.read recorded with
    | error flaw =>
      rw [read] at found
      cases found
    | ok w =>
      rw [read] at found
      cases found
      exact read
  | none =>
    rcases answer : firstAnswer ch .version scene with ⟨fault | told, session, world⟩
    · rw [inSession_heard (Check.version_untold known answer)] at found
      cases found
    · rw [inSession_heard (Check.version_told known answer)] at found
      cases found
      simp [Scene.asked, List.suffix_append_of_suffix]

/-- Up to the first phase that fails, and in it, the cluster is visited as planned. -/
theorem split_visits {completed ahead : List Step} {final : Scene ω}
    (split : phases scene.desk.settings = completed ++ ahead)
    (quiet : Visited (run ch (completed ++ ahead.take 1) scene) [] final) :
    ∃ visits, Visited scene visits final ∧
      visits.map Visit.aim =
        (plan ch completed scene ++ (plan ch ahead (run ch completed scene)).take 1).flatMap
          Stage.aims := by
  have subset : ∀ step ∈ completed ++ ahead.take 1, step ∈ phases scene.desk.settings := by
    intro step present
    rw [split]
    rcases List.mem_append.mp present with present | present
    · exact List.mem_append_left _ present
    · exact List.mem_append_right _ (List.mem_of_mem_take present)
  obtain ⟨visits, visited, same⟩ := run_visits ch (.refl _) subset
  refine ⟨visits, ?_, ?_⟩
  · rw [← List.append_nil visits]
    exact visited.append quiet
  · rw [same, plan_append, plan_take_one]

/-- The visits of a whole negotiation are a first part of its course. -/
theorem settle_visits (ch : Channel σ ω) (scene : Scene ω) :
    ∃ visits, Visited scene visits (settle ch scene).2 ∧
      visits.map Visit.aim <+:
        (course scene.desk.settings scene.negotiation.roster (grownSet ch scene)
          (narrowedSet ch scene)).flatMap Stage.aims := by
  obtain ⟨completed, ahead, split, -, quiet, -⟩ := settle_split ch scene
  obtain ⟨visits, visited, same⟩ := split_visits split quiet
  refine ⟨visits, visited, ?_⟩
  rw [same, ← plan_phases, split, plan_append]
  obtain ⟨rest, later⟩ := List.take_prefix 1 (plan ch ahead (run ch completed scene))
  refine ⟨rest.flatMap Stage.aims, ?_⟩
  rw [← List.flatMap_append, List.append_assoc, later]

/-- How a whole negotiation that begins at a scene goes: it completes some stages of its course, and
if others are ahead then it fails in the first one of them. -/
structure Progress (ch : Channel σ ω) (scene : Scene ω) (grown narrowed : List String)
    (completed ahead : List Stage) : Prop where
  split : course scene.desk.settings scene.negotiation.roster grown narrowed = completed ++ ahead
  /-- The cluster is visited for what the completed stages visit it for, and the one that fails. -/
  visited : ∃ visits, Visited scene visits (settle ch scene).2 ∧
    visits.map Visit.aim = (completed ++ ahead.take 1).flatMap Stage.aims
  succeeded : Succeed ch (completed.map Stage.phase) scene
  failed : ∀ {stage rest}, ahead = stage :: rest → ∃ fault,
    (stage.phase.take ch (run ch (completed.map Stage.phase) scene)).1 = .error fault ∧
      (settle ch scene).1 = .error fault
  /-- After each stage the working set is the one that the next stage is planned on. -/
  between : ∀ {taken}, taken <+: completed.map Stage.phase →
    (run ch taken scene).negotiation.roster.workingSet =
      reached scene.negotiation.roster.workingSet grown narrowed taken
  left : (settle ch scene).2.negotiation.roster.workingSet =
    reached scene.negotiation.roster.workingSet grown narrowed (completed.map Stage.phase)
  returned : ahead = [] → (settle ch scene).1 = .ok narrowed ∧
    ∃ v, (settle ch scene).2.negotiation.version = some v ∧
      Resolved scene.desk.settings (settle ch scene).2.desk.journal.events v

theorem run_failed {step : Step} (single : step ≠ .settle) {fault : Fault}
    (failed : (step.take ch scene).1 = .error fault) :
    (run ch [step] scene).negotiation.roster = scene.negotiation.roster :=
  (take_single single).failed failed

theorem succeed_last {steps : List Step} {step : Step}
    (succeed : Succeed ch (steps ++ [step]) scene) :
    ∃ reply, (step.take ch (run ch steps scene)).1 = .ok reply := by
  induction steps generalizing scene with
  | nil => exact succeed.1
  | cons first rest ih => exact ih succeed.2

/-- Where all phases succeed, the last one has settled the version on the narrowed working set. -/
theorem succeed_resolved (succeed : Succeed ch (phases scene.desk.settings) scene) :
    (run ch (phases scene.desk.settings) scene).negotiation.roster.workingSet =
        narrowedSet ch scene ∧
      ∃ v, (run ch (phases scene.desk.settings) scene).negotiation.version = some v ∧
        Resolved scene.desk.settings
          (run ch (phases scene.desk.settings) scene).desk.journal.events v := by
  refine ⟨?_, ?_⟩
  · rw [run_reached List.prefix_rfl, reached, if_pos (by simp [phases_eq])]
  have shape : phases scene.desk.settings =
      (checks scene.desk.settings ++ [.extendNodes, .narrowNodes]) ++ [.findVersion] := by
    rw [phases_eq]
    simp
  rw [shape] at succeed ⊢
  obtain ⟨reply, settled⟩ := succeed_last succeed
  rw [run_append]
  have settings : (run ch (checks scene.desk.settings ++ [.extendNodes, .narrowNodes])
      scene).desk.settings = scene.desk.settings := by
    obtain ⟨-, checked⟩ := run_checks ch (fun _ => mem_checks) scene
    rw [run_append, run, run, run, narrowNodes_frame, (extendNodes_frame ch _).1, checked]
  generalize run ch (checks scene.desk.settings ++ [.extendNodes, .narrowNodes]) scene = narrowed
    at settled settings ⊢
  obtain ⟨v, found, -⟩ :=
    Attempt.of_bind_pure (Prod.ext settled rfl : Step.findVersion.take ch narrowed = (_, _))
  refine ⟨v, findVersion_version found, ?_⟩
  rw [← settings]
  exact findVersion_resolved found

/-- A whole negotiation visits the cluster in the order of its phases, every phase on the working
set that the phases before it left, and goes no further than the first phase that fails. It returns
if none fails, with the working set after narrowing and a settled version; otherwise it leaves the
working set of the last phase that it completed. -/
theorem settle_course (ch : Channel σ ω) (scene : Scene ω) :
    ∃ grown narrowed completed ahead, Progress ch scene grown narrowed completed ahead := by
  obtain ⟨completed, ahead, split, succeed, quiet, negotiation, returned, failed⟩ :=
    settle_split ch scene
  have first : completed <+: phases scene.desk.settings := ⟨ahead, split.symm⟩
  have phased : (plan ch completed scene).map Stage.phase = completed := plan_phase _ _
  refine ⟨grownSet ch scene, narrowedSet ch scene, plan ch completed scene,
    plan ch ahead (run ch completed scene), ?_⟩
  constructor
  · rw [← plan_phases, split, plan_append]
  · exact split_visits split quiet
  · rw [phased]
    exact succeed
  · intro stage rest goesOn
    rw [phased]
    cases ahead with
    | nil => cases goesOn
    | cons step later =>
      cases goesOn
      exact failed rfl
  · intro taken early
    rw [phased] at early
    exact run_reached (early.trans first)
  · rw [phased, negotiation, ← run_reached first]
    cases ahead with
    | nil => simp
    | cons step later =>
      obtain ⟨fault, refused, -⟩ := failed rfl
      have phase : step ∈ phases scene.desk.settings := by simp [split]
      rw [List.take_succ_cons, List.take_zero, run_append,
        run_failed (phases_single phase) refused]
  · intro finished
    have whole : ahead = [] := by
      cases ahead with
      | nil => rfl
      | cons step later => cases finished
    subst whole
    rw [List.append_nil] at split
    rw [List.take_nil, List.append_nil] at quiet negotiation
    rw [← split] at quiet negotiation returned succeed
    obtain ⟨last, v, version, resolved⟩ := succeed_resolved succeed
    refine ⟨by rw [returned rfl, last], v, by rw [negotiation, version], ?_⟩
    rw [quiet]
    simpa using resolved

end Clearance.Negotiation
