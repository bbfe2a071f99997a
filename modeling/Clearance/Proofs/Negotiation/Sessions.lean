import Clearance.Proofs.Check.Record
import Clearance.Proofs.Cluster.Session
import Clearance.Proofs.Negotiation.Visits
import Clearance.Proofs.Roster.Sources

/-!
# The sessions of a step

A step visits the cluster in sessions that follow each other. Each of them is opened on the working
set as it is at that time, and closed before the step goes on. The visits account for everything
that a step does to what it shares with others and to the roster: what is in the journal, what
becomes of the world, which nodes there are afterwards, and what is recorded of the version.

Results:
1. `Toured`, `Toured.bind`: an attempt with its visits, and attempts one after the other.
2. `single_toured`: the visits of a single step, and which steps have none.
3. `take_toured`: every step has such visits.
-/

namespace Clearance.Negotiation

open Check (Recording)
open Cluster (Channel Conducts Conversation Query Sessions Visit)
open Roster (Led)

variable {σ ω α β : Type} {ch : Channel σ ω} {scene : Scene ω} {topic : Query → Prop}

/-! ## Desks -/

/-- These visits are what happened between the two desks: the journal has recorded them one after
the other, and they led from one world to the other. -/
structure Attended (ch : Channel σ ω) (before : Desk ω) (visits : List Visit) (after : Desk ω) :
    Prop where
  recorded : after.journal.events = before.journal.events ++ visits.flatMap Visit.events
  sessions : Sessions ch before.world visits after.world

theorem Attended.none {before after : Desk ω}
    (events : after.journal.events = before.journal.events)
    (world : after.world = before.world) : Attended ch before [] after := by
  refine ⟨by rw [events]; exact (List.append_nil _).symm, ?_⟩
  rw [world]
  exact .none

theorem Attended.append {before between after : Desk ω} {visits more : List Visit}
    (first : Attended ch before visits between) (second : Attended ch between more after) :
    Attended ch before (visits ++ more) after where
  recorded := by
    rw [second.recorded, first.recorded, List.flatMap_append, List.append_assoc]
  sessions := first.sessions.append second.sessions

/-! ## Attempts -/

/-- At a scene an attempt came to the result, with these visits on the way. -/
structure Toured (ch : Channel σ ω) (topic : Query → Prop) (scene : Scene ω) (visits : List Visit)
    (result : Except Fault α × Scene ω) : Prop where
  attended : Attended ch scene.desk visits result.2.desk
  led : Led scene.negotiation.roster visits result.2.negotiation.roster
  recording : Recording scene.desk.settings.recordedVersion (visits.flatMap Visit.exchanges)
    result.2.desk.settings.recordedVersion
  onTopic : ∀ e ∈ visits.flatMap Visit.exchanges, topic e.query
  misuse : ∀ m, result.1 = .error (.misuse m) →
    ∃ e ∈ visits.flatMap Visit.exchanges, e.outcome = .error (.misuse m)

namespace Toured

/-- An attempt without a visit, which leaves alone what visits account for. -/
theorem quiet {result : Except Fault α × Scene ω}
    (events : result.2.desk.journal.events = scene.desk.journal.events)
    (world : result.2.desk.world = scene.desk.world)
    (roster : result.2.negotiation.roster = scene.negotiation.roster)
    (record : result.2.desk.settings.recordedVersion = scene.desk.settings.recordedVersion)
    (own : ∀ m, result.1 ≠ .error (.misuse m)) : Toured ch topic scene [] result where
  attended := .none events world
  led := by
    rw [roster]
    exact .none
  recording := by
    rw [record]
    exact .none
  onTopic _ present := absurd present List.not_mem_nil
  misuse m failed := absurd failed (own m)

theorem widen {visits : List Visit} {result : Except Fault α × Scene ω} {wider : Query → Prop}
    (toured : Toured ch topic scene visits result) (enough : ∀ {query}, topic query → wider query) :
    Toured ch wider scene visits result where
  attended := toured.attended
  led := toured.led
  recording := toured.recording
  onTopic e present := enough (toured.onTopic e present)
  misuse := toured.misuse

/-- A fault stays what it is if another answer would have been given. -/
theorem ofError {visits : List Visit} {after : Scene ω} {fault : Fault}
    (toured : Toured ch topic scene visits ((.error fault : Except Fault α), after)) :
    Toured ch topic scene visits ((.error fault : Except Fault β), after) where
  attended := toured.attended
  led := toured.led
  recording := toured.recording
  onTopic := toured.onTopic
  misuse m failed := toured.misuse m (by cases failed; rfl)

/-- The visits of an attempt after another one come after those of the first one. -/
theorem append {visits more : List Visit} {a : α} {between : Scene ω}
    {result : Except Fault β × Scene ω} (first : Toured ch topic scene visits (.ok a, between))
    (second : Toured ch topic between more result) :
    Toured ch topic scene (visits ++ more) result where
  attended := first.attended.append second.attended
  led := first.led.append second.led
  recording := by
    rw [List.flatMap_append]
    exact first.recording.append second.recording
  onTopic e present := by
    rw [List.flatMap_append] at present
    rcases List.mem_append.mp present with present | present
    · exact first.onTopic e present
    · exact second.onTopic e present
  misuse m failed := by
    obtain ⟨e, present, same⟩ := second.misuse m failed
    rw [List.flatMap_append]
    exact ⟨e, List.mem_append_right _ present, same⟩

theorem bind {x : Attempt (Scene ω) α} {next : α → Attempt (Scene ω) β} {visits : List Visit}
    (toured : Toured ch topic scene visits (x scene))
    (goesOn : ∀ {a after}, x scene = (.ok a, after) →
      ∃ more, Toured ch topic after more (next a after)) :
    ∃ all, Toured ch topic scene all ((x >>= next) scene) := by
  rcases outcome : x scene with ⟨fault | a, after⟩
  · rw [Attempt.bind_of_error outcome]
    rw [outcome] at toured
    exact ⟨visits, toured.ofError⟩
  · rw [Attempt.bind_of_ok outcome]
    rw [outcome] at toured
    obtain ⟨more, later⟩ := goesOn outcome
    exact ⟨visits ++ more, toured.append later⟩

/-- An answer that is only told in another way. -/
theorem reply {x : Attempt (Scene ω) α} {f : α → β} {visits : List Visit}
    (toured : Toured ch topic scene visits (x scene)) :
    Toured ch topic scene visits ((x >>= fun a => pure (f a)) scene) := by
  rw [Attempt.bind_pure_apply]
  refine ⟨toured.attended, toured.led, toured.recording, toured.onTopic, fun m failed => ?_⟩
  exact toured.misuse m (map_eq_error.mp failed)

end Toured

/-! ## Sessions -/

/-- The question is of no consequence: its answer decides about a check only. -/
def Checking : Query → Prop
  | .name | .presence _ | .health _ => True
  | .nodes _ | .version => False

theorem permits_of_checking {query : Query} (checking : Checking query) (r : Roster) :
    r.Permits query := by
  cases query with
  | nodes | version => exact checking.elim
  | name | presence | health => trivial

/-- A talk whose questions are of no consequence is one visit. -/
theorem inSession_checked {talk : Attempt (Conversation σ ω) α} (conducts : Conducts ch topic talk)
    (checking : ∀ query, topic query → Checking query) (scene : Scene ω) :
    ∃ exchanges, Toured ch topic scene [⟨scene.negotiation.roster.workingSet, exchanges⟩]
      (inSession ch talk scene) := by
  obtain ⟨exchanges, conducted⟩ := conducts (opened ch scene)
  have only : ∀ e ∈ exchanges, Checking e.query := fun e present =>
    checking e.query (conducted.onTopic e present)
  have all : [Visit.mk scene.negotiation.roster.workingSet exchanges].flatMap Visit.exchanges =
      exchanges := List.flatMap_singleton ..
  have said := inSession_of (rfl : talk (opened ch scene) = (_, _))
  have recorded := conducted.recorded
  have held := conducted.held
  refine ⟨exchanges, ⟨?_, .visit held .none⟩, ?_, ?_, ?_, ?_⟩
  · rw [said]
    simp only [Cluster.Journal.record, recorded]
    simp [opened, Channel.openOn, Cluster.Journal.record, Visit.events]
  · have led : Led scene.negotiation.roster [⟨scene.negotiation.roster.workingSet, exchanges⟩]
        (scene.negotiation.roster.hearAll exchanges) :=
      .visit (fun e present => permits_of_checking (only e present) _) .none
    rw [Roster.hearAll_others] at led
    · exact led
    · intro e present role same
      have first := only e present
      rw [same] at first
      exact first
  · rw [all]
    refine Recording.of_others fun e present same => ?_
    have first := only e present
    rw [same] at first
    exact first
  · rw [all]
    exact conducted.onTopic
  · rw [all]
    exact conducted.misuse

/-- A session in which one question is asked is one visit. -/
theorem Toured.asked {query : Query} {outcome : Except Fault query.Answer} {session : σ}
    {world : ω} {result : Except Fault α × Scene ω}
    (answer : firstAnswer ch query scene = (outcome, session, world))
    (left : result.2.desk.world = (ch.stop session world).2)
    (events : result.2.desk.journal.events = scene.desk.journal.events ++
      [.opened scene.negotiation.roster.workingSet, .asked query outcome, .closed])
    (permitted : scene.negotiation.roster.Permits query) (onTopic : topic query)
    (roster : result.2.negotiation.roster = scene.negotiation.roster.hear ⟨query, outcome⟩)
    (recording : Recording scene.desk.settings.recordedVersion [⟨query, outcome⟩]
      result.2.desk.settings.recordedVersion)
    (misuse : ∀ m, result.1 = .error (.misuse m) → outcome = .error (.misuse m)) :
    Toured ch topic scene
      [⟨scene.negotiation.roster.workingSet, [⟨query, outcome⟩]⟩] result where
  attended := ⟨events, .visit (.one answer) (by rw [left]; exact .none)⟩
  led := by
    rw [roster]
    refine .visit (fun e present => ?_) .none
    cases List.mem_singleton.mp present
    exact permitted
  recording := recording
  onTopic e present := by
    cases List.mem_singleton.mp present
    exact onTopic
  misuse m failed := ⟨_, List.mem_singleton_self _, misuse m failed⟩

/-! ## Single steps -/

/-- What a step asks. -/
def Step.Topic : Step → Query → Prop
  | .settle, query => query = .name ∨ (∃ role, query = .nodes role) ∨ query = .version
  | .checkSettings, _ => False
  | .checkName, query => query = .name
  | .extendNodes, query => query = .nodes .any
  | .narrowNodes, query => ∃ role, role ≠ .any ∧ query = .nodes role
  | .findVersion, query => query = .version
  | .clearReading, query | .clearWriting, query => Check.AboutIndex query

/-- The step does not open a session: it needs none, or what it needs is off or has been refused
before. -/
def Step.Silent (scene : Scene ω) : Step → Prop
  | .checkSettings => True
  | .extendNodes => scene.negotiation.roster.discoveryEnabled = false
  | .narrowNodes => scene.negotiation.roster.restriction = none
  | .clearWriting => ∃ fault, Check.documentId scene.desk.settings = .error fault
  | .settle | .checkName | .findVersion | .clearReading => False

theorem checking_of_aboutIndex {query : Query} (about : Check.AboutIndex query) :
    Checking query := by
  obtain ⟨index, rfl | rfl⟩ := about
  all_goals trivial

theorem versionFault_eq_misuse {fault : Fault} {m : MisuseFault} :
    Check.versionFault fault = .misuse m ↔ fault = .misuse m := by
  cases fault <;> simp [Check.versionFault]

theorem extendNodes_toured (ch : Channel σ ω) (scene : Scene ω) :
    ∃ visits, Toured ch (· = .nodes .any) scene visits (extendNodes ch scene) ∧
      (visits = [] ↔ scene.negotiation.roster.discoveryEnabled = false) := by
  rcases extendNodes_cases ch scene with
    ⟨off, same⟩ | ⟨on, found, session, world, answer, same⟩ |
      ⟨on, fault, session, world, answer, same⟩
  · rw [same]
    exact ⟨[], .quiet rfl rfl rfl rfl fun _ => ok_ne_error, by simp [off]⟩
  · rw [same]
    exact ⟨_, .asked answer rfl rfl (by rw [Roster.Permits, if_pos rfl, on]) rfl rfl .nodes
      fun _ failed => absurd failed ok_ne_error, by simp [on]⟩
  · rw [same]
    refine ⟨_, .asked answer rfl rfl (by rw [Roster.Permits, if_pos rfl, on]) rfl rfl .nodes
      fun m failed => ?_, by simp [on]⟩
    rw [Fault.onErrand_eq_misuse.mp (Except.error.inj failed)]

/-- Where nodes cannot be narrowed, a session is opened in which nothing is asked. -/
theorem narrowNodes_any_toured (ch : Channel σ ω)
    (restricted : scene.negotiation.roster.restriction = some .any) :
    ∃ visits, Toured ch (fun _ => False) scene visits (narrowNodes ch scene) ∧ visits ≠ [] := by
  have conducts : Conducts ch (fun _ => False)
      (Roster.restrictTo ch .any scene.negotiation.roster) := by
    rw [Roster.restrictTo, if_pos rfl]
    exact Conducts.fail fun _ same => by cases same
  obtain ⟨exchanges, toured⟩ := inSession_checked conducts (fun _ => False.elim) scene
  have said : inSession ch (Roster.restrictTo ch .any scene.negotiation.roster) scene = _ :=
    inSession_of (Roster.restrictTo_any scene.negotiation.roster)
  rw [narrowNodes_of_error restricted said]
  rw [said] at toured
  exact ⟨_, toured.ofError, List.cons_ne_nil _ _⟩

/-- To narrow the nodes to a role the cluster is asked for them, and nodes that it did not list are
dropped. -/
theorem narrowNodes_asked (ch : Channel σ ω) {role : Role}
    (restricted : scene.negotiation.roster.restriction = some role) (proper : role ≠ .any) :
    ∃ outcome,
      Toured ch (· = .nodes role) scene
        [⟨scene.negotiation.roster.workingSet, [⟨.nodes role, outcome⟩]⟩]
        (narrowNodes ch scene) ∧
      ((narrowNodes ch scene).1 = .ok () → ∀ listed, outcome = .ok listed →
        ∀ a ∈ (narrowNodes ch scene).2.negotiation.roster.workingSet, a ∈ listed) := by
  have permitted : scene.negotiation.roster.Permits (.nodes role) := by
    rw [Roster.Permits, if_neg proper, restricted]
  rcases answer : firstAnswer ch (.nodes role) scene with ⟨fault | listed, session, world⟩
  · rw [narrowNodes_failed restricted proper answer]
    refine ⟨_, .asked answer rfl rfl permitted rfl (Roster.hear_error _ _).symm .nodes
      fun m failed => ?_, fun done => absurd done.symm ok_ne_error⟩
    rw [Fault.onErrand_eq_misuse.mp (Except.error.inj failed)]
  · have kept := Roster.hear_nodes scene.negotiation.roster role listed
    rw [if_neg proper] at kept
    cases left : scene.negotiation.roster.narrow role listed with
    | error shortage =>
      rw [left] at kept
      rw [narrowNodes_short restricted proper answer left]
      refine ⟨_, .asked answer rfl rfl permitted rfl kept.symm .nodes fun m failed => ?_,
        fun done => absurd done.symm ok_ne_error⟩
      cases failed
    | ok narrowed =>
      rw [left] at kept
      rw [narrowNodes_narrowed restricted proper answer left]
      refine ⟨_, .asked answer rfl rfl permitted rfl kept.symm .nodes
        fun _ failed => absurd failed ok_ne_error, ?_⟩
      rintro - _ ⟨⟩ a present
      have present : a ∈ narrowed.workingSet := present
      rw [(Roster.narrow_eq_ok.mp left).2] at present
      exact of_decide_eq_true (List.mem_filter.mp present).2

theorem narrowNodes_toured (ch : Channel σ ω) (scene : Scene ω) :
    ∃ visits, Toured ch Step.narrowNodes.Topic scene visits (narrowNodes ch scene) ∧
      (visits = [] ↔ scene.negotiation.roster.restriction = none) := by
  cases restricted : scene.negotiation.roster.restriction with
  | none =>
    rw [narrowNodes_off restricted]
    exact ⟨[], .quiet rfl rfl rfl rfl nofun, by simp⟩
  | some role =>
    by_cases proper : role = .any
    · subst proper
      obtain ⟨visits, toured, opened⟩ := narrowNodes_any_toured ch restricted
      exact ⟨visits, toured.widen False.elim, by simp [opened]⟩
    · obtain ⟨outcome, toured, -⟩ := narrowNodes_asked ch restricted proper
      exact ⟨_, toured.widen fun same => ⟨role, proper, same⟩, by simp⟩

/-- A version that is recorded is taken from the record, in a session in which nothing is asked. -/
theorem findVersion_recorded_toured (ch : Channel σ ω) {recorded : String}
    (known : stated scene.desk.settings.recordedVersion = some recorded) :
    ∃ visits, Toured ch (fun _ => False) scene visits (findVersion ch scene) ∧ visits ≠ [] := by
  have conducts : Conducts ch (fun _ => False) (Check.version ch scene.desk.settings) := by
    rw [Check.version, known]
    refine (Conducts.say _).bind fun _ => ?_
    cases Version.read recorded with
    | ok v => exact Conducts.pure _
    | error flaw => exact Conducts.fail fun _ same => by cases same
  obtain ⟨exchanges, toured⟩ := inSession_checked conducts (fun _ => False.elim) scene
  have told : (inSession ch (Check.version ch scene.desk.settings) scene).1 = _ :=
    inSession_fst (Check.version ch scene.desk.settings)
  have kept : (inSession ch (Check.version ch scene.desk.settings) scene).2.desk.settings = _ :=
    inSession_settings (Check.version ch scene.desk.settings)
  rw [Check.version_recorded known] at told
  rw [findVersion_eq]
  rcases said : inSession ch (Check.version ch scene.desk.settings) scene
    with ⟨fault | ⟨v, s⟩, after⟩
  · rw [said] at toured
    exact ⟨_, toured.ofError, List.cons_ne_nil _ _⟩
  · rw [said] at toured told kept
    have same : s = scene.desk.settings := by
      cases read : Version.read recorded with
      | error flaw =>
        rw [read] at told
        cases told
      | ok w =>
        rw [read] at told
        cases told
        rfl
    subst same
    refine ⟨_, toured.append (.quiet rfl rfl rfl ?_ ?_), by simp⟩
    · rw [kept]
    · exact fun _ => ok_ne_error

theorem findVersion_toured (ch : Channel σ ω) (scene : Scene ω) :
    ∃ visits, Toured ch (· = .version) scene visits (findVersion ch scene) ∧ visits ≠ [] := by
  cases known : stated scene.desk.settings.recordedVersion with
  | some recorded =>
    obtain ⟨visits, toured, opened⟩ := findVersion_recorded_toured ch known
    exact ⟨visits, toured.widen False.elim, opened⟩
  | none =>
    rcases answer : firstAnswer ch .version scene with ⟨fault | v, session, world⟩
    · have said := inSession_heard (Check.version_untold known answer)
      rw [findVersion_eq, said]
      refine ⟨_, .asked answer rfl rfl trivial rfl rfl (.untold known .none) fun m failed => ?_,
        List.cons_ne_nil _ _⟩
      rw [versionFault_eq_misuse.mp (Except.error.inj failed)]
    · have said := inSession_heard (Check.version_told known answer)
      rw [findVersion_eq, said]
      exact ⟨_, .asked answer rfl rfl trivial rfl rfl (.told known .none) nofun,
        List.cons_ne_nil _ _⟩

theorem clearWriting_toured (ch : Channel σ ω) (scene : Scene ω) :
    ∃ visits, Toured ch Check.AboutIndex scene visits (clearWriting ch scene) ∧
      (visits = [] ↔ ∃ fault, Check.documentId scene.desk.settings = .error fault) := by
  rw [clearWriting_eq]
  cases identified : Check.documentId scene.desk.settings with
  | ok u =>
    obtain ⟨exchanges, toured⟩ :=
      inSession_checked (Check.conducts_writing ch _) (fun _ => checking_of_aboutIndex) scene
    exact ⟨_, toured, by simp⟩
  | error own =>
    have plain : ∀ m, own ≠ .misuse m := by
      rw [Check.documentId] at identified
      split at identified
      · cases identified
        exact nofun
      · cases identified
    exact ⟨[], .quiet rfl rfl rfl rfl fun m failed => plain m (Except.error.inj failed), by simp⟩

/-- A single step visits the cluster unless it is silent, and asks what it is for. -/
theorem single_toured (ch : Channel σ ω) {step : Step} (single : step ≠ .settle)
    (scene : Scene ω) :
    ∃ visits, Toured ch step.Topic scene visits (step.take ch scene) ∧
      (visits = [] ↔ step.Silent scene) := by
  cases step with
  | settle => exact absurd rfl single
  | checkSettings =>
    have checked : Toured ch Step.checkSettings.Topic scene [] (checkSettings scene) := by
      refine .quiet rfl rfl rfl rfl fun m failed => ?_
      rw [checkSettings_eq, Settings.validate] at failed
      obtain ⟨_, -, same⟩ := mapError_eq_error.mp failed
      cases same
    exact ⟨[], checked.reply, by simp [Step.Silent]⟩
  | checkName =>
    have checking : ∀ query : Query, query = .name → Checking query := by
      rintro _ rfl
      trivial
    obtain ⟨exchanges, toured⟩ :=
      inSession_checked (Check.conducts_name ch scene.desk.settings) checking scene
    exact ⟨_, toured.reply, by simp [Step.Silent]⟩
  | extendNodes =>
    obtain ⟨visits, toured, opened⟩ := extendNodes_toured ch scene
    exact ⟨visits, toured.reply, opened⟩
  | narrowNodes =>
    obtain ⟨visits, toured, opened⟩ := narrowNodes_toured ch scene
    exact ⟨visits, toured.reply, opened⟩
  | findVersion =>
    obtain ⟨visits, toured, opened⟩ := findVersion_toured ch scene
    exact ⟨visits, toured.reply, by simp [Step.Silent, opened]⟩
  | clearReading =>
    obtain ⟨exchanges, toured⟩ :=
      inSession_checked (Check.conducts_reading ch scene.desk.settings)
        (fun _ => checking_of_aboutIndex) scene
    exact ⟨_, toured.reply, by simp [Step.Silent]⟩
  | clearWriting =>
    obtain ⟨visits, toured, opened⟩ := clearWriting_toured ch scene
    exact ⟨visits, toured.reply, opened⟩

/-! ## Whole negotiations -/

/-- Steps that are taken until one fails ask what one of them asks. -/
theorem takeAll_toured (ch : Channel σ ω) {steps : List Step}
    (singles : ∀ step ∈ steps, step ≠ .settle) (scene : Scene ω) :
    ∃ visits, Toured ch (fun query => ∃ step ∈ steps, step.Topic query) scene visits
      (takeAll ch steps scene) := by
  induction steps generalizing scene with
  | nil => exact ⟨[], .quiet rfl rfl rfl rfl nofun⟩
  | cons step rest ih =>
    obtain ⟨visits, toured, -⟩ := single_toured ch (singles step List.mem_cons_self) scene
    refine Toured.bind (toured.widen fun asked => ⟨step, List.mem_cons_self, asked⟩)
      fun {_ after} _ => ?_
    obtain ⟨more, later⟩ :=
      ih (fun later present => singles later (List.mem_cons_of_mem _ present)) after
    refine ⟨more, later.widen ?_⟩
    rintro query ⟨other, present, asked⟩
    exact ⟨other, List.mem_cons_of_mem _ present, asked⟩

theorem conclude_toured (scene : Scene ω) : Toured ch topic scene [] (conclude scene) := by
  rcases scene with ⟨desk, ⟨roster, _ | v⟩⟩
  all_goals exact .quiet rfl rfl rfl rfl nofun

theorem topic_of_phase {s : Settings} {step : Step} (phase : step ∈ phases s) {query : Query}
    (asked : step.Topic query) : Step.settle.Topic query := by
  cases step with
  | settle => exact asked
  | checkSettings => exact asked.elim
  | checkName => exact .inl asked
  | extendNodes => exact .inr (.inl ⟨_, asked⟩)
  | narrowNodes =>
    obtain ⟨role, -, asked⟩ := asked
    exact .inr (.inl ⟨role, asked⟩)
  | findVersion => exact .inr (.inr asked)
  | clearReading | clearWriting =>
    rw [phases] at phase
    split at phase
    all_goals simp at phase

theorem settle_toured (ch : Channel σ ω) (scene : Scene ω) :
    ∃ visits, Toured ch Step.settle.Topic scene visits (settle ch scene) := by
  rw [settle_eq]
  obtain ⟨visits, toured⟩ := takeAll_toured ch (fun _ => phases_single) scene
  refine Toured.bind (toured.widen ?_) fun {_ after} _ => ⟨[], conclude_toured after⟩
  rintro query ⟨step, phase, asked⟩
  exact topic_of_phase phase asked

/-- Every step visits the cluster in sessions one after the other, unless it is silent. -/
theorem take_toured (ch : Channel σ ω) (step : Step) (scene : Scene ω) :
    ∃ visits, Toured ch step.Topic scene visits (step.take ch scene) ∧
      (step.Silent scene → visits = []) := by
  by_cases whole : step = .settle
  · subst whole
    obtain ⟨visits, toured⟩ := settle_toured ch scene
    exact ⟨visits, toured.reply, False.elim⟩
  · obtain ⟨visits, toured, opened⟩ := single_toured ch whole scene
    exact ⟨visits, toured, opened.mpr⟩

end Clearance.Negotiation
