import Clearance.Http.Script
import Clearance.Proofs.Negotiation.Course
import Clearance.Proofs.Negotiation.Invariants
import Clearance.Proofs.Negotiation.Office
import Clearance.Proofs.Rest.Statement

/-!
# The version is remembered

The settings at a desk record the version of the cluster, so that every negotiation there has the
same one. This works because the record of a version is read as this version, as long as the
cluster tells no version that could not be read from a text.

Results:
1. `take_remembers`: what a step makes of the record, and of the version of its negotiation.
2. `act_remembers`: the same of an act and all negotiations of the office.
3. `version_memo`: the version is told once at most, and whoever has a version has this one.
-/

namespace Clearance

/-- What the settings at the desk record of the version. -/
def Desk.record {ω : Type} (desk : Desk ω) : Option String :=
  desk.settings.recordedVersion

namespace Negotiation

open Check (Recording knownVersion toldVersions)
open Cluster (Channel Conversation Exchange Visit)

variable {σ ω : Type} {ch : Channel σ ω} {scene : Scene ω}

/-- Every version that the channel tells can be read from some text. -/
def Legible (ch : Channel σ ω) : Prop :=
  ∀ {session : σ} {world : ω} {v : Version},
    (ch.answer .version session world).1 = .ok v → v.Legible

/-! ## Steps -/

/-- What a step at a scene makes of the version: it becomes the one on record or stays as it is, the
reply tells the one on record, and a fault leaves version and record alone. -/
structure Remembers (scene : Scene ω) (result : Except Fault Reply × Scene ω) : Prop where
  version : ∀ v, result.2.negotiation.version = some v →
    scene.negotiation.version = some v ∨ knownVersion result.2.desk.record = some v
  told : ∀ v, result.1 = .ok (.version v) → knownVersion result.2.desk.record = some v
  failed : ∀ {fault}, result.1 = .error fault →
    result.2.negotiation.version = scene.negotiation.version ∧
      result.2.desk.record = scene.desk.record

/-- The step finds no version. -/
def Step.Plain (step : Step) : Prop :=
  step ≠ .settle ∧ step ≠ .findVersion

theorem take_plain {step : Step} (plain : step.Plain) (ch : Channel σ ω) (scene : Scene ω) :
    (step.take ch scene).2.negotiation.version = scene.negotiation.version ∧
      (step.take ch scene).2.desk.settings = scene.desk.settings := by
  cases step with
  | settle => exact absurd rfl plain.1
  | findVersion => exact absurd rfl plain.2
  | checkSettings | checkName | clearReading =>
    rw [Step.take, Attempt.bind_pure_apply]
    exact ⟨rfl, rfl⟩
  | extendNodes =>
    rw [Step.take, Attempt.bind_pure_apply]
    rcases extendNodes_cases ch scene with ⟨-, same⟩ | ⟨-, _, _, _, -, same⟩ | ⟨-, _, _, _, -, same⟩
    all_goals
      rw [same]
      exact ⟨rfl, rfl⟩
  | narrowNodes =>
    rw [Step.take, Attempt.bind_pure_apply]
    rcases narrowNodes_cases ch scene with
      ⟨-, same⟩ | ⟨_, _, _, _, _, -, -, -, same⟩ | ⟨-, _, -, negotiation, settings⟩
    · rw [same]
      exact ⟨rfl, rfl⟩
    · rw [same]
      exact ⟨rfl, rfl⟩
    · exact ⟨by rw [negotiation], settings⟩
  | clearWriting =>
    rw [Step.take, Attempt.bind_pure_apply]
    exact ⟨by rw [clearWriting_frame.1], clearWriting_frame.2⟩

/-- The version that a check gives is the one on record in the settings that it gives. -/
theorem version_known (legible : Legible ch) {c : Conversation σ ω} {s t : Settings} {v : Version}
    (settled : (Check.version ch s c).1 = .ok (v, t)) :
    knownVersion t.recordedVersion = some v := by
  cases known : stated s.recordedVersion with
  | some recorded =>
    rw [Check.version_recorded known] at settled
    cases read : Version.read recorded with
    | error flaw =>
      rw [read] at settled
      cases settled
    | ok w =>
      rw [read] at settled
      cases settled
      exact Check.knownVersion_eq_some.mpr ⟨recorded, known, read⟩
  | none =>
    rcases answer : ch.answer .version c.session c.world with ⟨fault | told, session, world⟩
    · rw [Check.version_untold known answer] at settled
      cases settled
    · rw [Check.version_told known answer] at settled
      cases settled
      exact Check.knownVersion_render (legible (congrArg Prod.fst answer))

/-- The version that is found is the one on record afterwards. Where none is found, nothing is
changed. -/
theorem findVersion_known (legible : Legible ch) (scene : Scene ω) :
    (∃ v after, findVersion ch scene = (.ok v, after) ∧ after.negotiation.version = some v ∧
      knownVersion after.desk.record = some v) ∨
    ∃ fault after, findVersion ch scene = (.error fault, after) ∧
      after.negotiation = scene.negotiation ∧ after.desk.settings = scene.desk.settings := by
  let check := Check.version ch scene.desk.settings
  have told : (inSession ch check scene).1 = _ := inSession_fst check
  have negotiation : (inSession ch check scene).2.negotiation = _ := inSession_negotiation check
  have settings : (inSession ch check scene).2.desk.settings = _ := inSession_settings check
  rw [findVersion_eq]
  rcases said : inSession ch check scene with ⟨fault | ⟨v, s⟩, after⟩
  · rw [said] at negotiation settings
    exact .inr ⟨fault, after, rfl, negotiation, settings⟩
  · rw [said] at told
    exact .inl ⟨v, _, rfl, rfl, version_known legible told.symm⟩

theorem findVersion_remembers (legible : Legible ch) (scene : Scene ω) :
    Remembers scene (Step.findVersion.take ch scene) := by
  rw [Step.take, Attempt.bind_pure_apply]
  rcases findVersion_known legible scene with
    ⟨v, after, found, version, known⟩ | ⟨fault, after, failed, negotiation, settings⟩
  · rw [found]
    refine ⟨fun w same => .inr ?_, fun w same => ?_, fun failed => absurd failed ok_ne_error⟩
    · rw [← same, version]
      exact known
    · cases same
      exact known
  · rw [failed]
    refine ⟨fun w same => .inl ?_, fun w told => absurd told.symm ok_ne_error,
      fun _ => ⟨by rw [negotiation], ?_⟩⟩
    · rw [← same, negotiation]
    · rw [Desk.record, settings]
      rfl

theorem reply_of_plain {step : Step} (plain : step.Plain) {v : Version} :
    (step.take ch scene).1 ≠ .ok (.version v) := by
  intro told
  cases step with
  | settle => exact plain.1 rfl
  | findVersion => exact plain.2 rfl
  | checkSettings | checkName | extendNodes | narrowNodes | clearReading | clearWriting =>
    obtain ⟨_, -, same⟩ := Attempt.of_bind_pure (Prod.ext told rfl)
    cases same

theorem plain_remembers {step : Step} (plain : step.Plain) (ch : Channel σ ω) (scene : Scene ω) :
    Remembers scene (step.take ch scene) := by
  obtain ⟨version, settings⟩ := take_plain plain ch scene
  refine ⟨fun v same => .inl ?_, fun v told => absurd told (reply_of_plain plain), fun _ => ?_⟩
  · rw [← same, version]
  · exact ⟨version, congrArg Settings.recordedVersion settings⟩

theorem single_remembers (legible : Legible ch) {step : Step} (single : step ≠ .settle)
    (scene : Scene ω) : Remembers scene (step.take ch scene) := by
  by_cases finding : step = .findVersion
  · subst finding
    exact findVersion_remembers legible scene
  · exact plain_remembers ⟨single, finding⟩ ch scene

/-! ## Whole negotiations -/

theorem takeAll_plain {steps : List Step} (plain : ∀ step ∈ steps, step.Plain) (ch : Channel σ ω)
    (scene : Scene ω) :
    (takeAll ch steps scene).2.negotiation.version = scene.negotiation.version ∧
      (takeAll ch steps scene).2.desk.settings = scene.desk.settings := by
  induction steps generalizing scene with
  | nil => exact ⟨rfl, rfl⟩
  | cons step rest ih =>
    have first := take_plain (plain step List.mem_cons_self) ch scene
    rcases taken : step.take ch scene with ⟨fault | reply, after⟩
    · rw [taken] at first
      rw [takeAll_of_error taken]
      exact first
    · rw [taken] at first
      rw [takeAll_of_ok taken]
      obtain ⟨version, settings⟩ :=
        ih (fun later present => plain later (List.mem_cons_of_mem _ present)) after
      exact ⟨version.trans first.1, settings.trans first.2⟩

/-- The version is found in the last phase. -/
theorem phases_last (s : Settings) :
    ∃ steps, (∀ step ∈ steps, step.Plain) ∧ phases s = steps ++ [.findVersion] := by
  refine ⟨checks s ++ [.extendNodes, .narrowNodes], fun step present => ?_, by simp [phases_eq]⟩
  rcases List.mem_append.mp present with check | phase
  · rcases mem_checks check with rfl | rfl
    all_goals exact ⟨nofun, nofun⟩
  · rcases List.mem_cons.mp phase with rfl | phase
    · exact ⟨nofun, nofun⟩
    · cases List.mem_singleton.mp phase
      exact ⟨nofun, nofun⟩

theorem settle_remembers (legible : Legible ch) (scene : Scene ω) :
    Remembers scene (Step.settle.take ch scene) := by
  obtain ⟨steps, plain, last⟩ := phases_last scene.desk.settings
  obtain ⟨version, settings⟩ := takeAll_plain plain ch scene
  rw [Step.take, Attempt.bind_pure_apply, settle_eq, last, takeAll_append]
  rcases early : takeAll ch steps scene with ⟨fault | u, between⟩
  · rw [early] at version settings
    have stopped := Attempt.bind_of_error (f := fun _ => takeAll ch [.findVersion]) early
    rw [Attempt.bind_of_error stopped]
    have record : between.desk.record = scene.desk.record :=
      congrArg Settings.recordedVersion settings
    refine ⟨fun v same => .inl ?_, fun v told => absurd told.symm ok_ne_error,
      fun _ => ⟨version, record⟩⟩
    rw [← same]
    exact version.symm
  · rw [early] at version settings
    have goesOn := Attempt.bind_of_ok (f := fun _ => takeAll ch [.findVersion]) early
    have late := findVersion_remembers legible between
    rcases found : Step.findVersion.take ch between with ⟨fault | reply, after⟩
    · rw [found] at late
      rw [takeAll_of_error found] at goesOn
      rw [Attempt.bind_of_error goesOn]
      refine ⟨fun v same => ?_, fun v told => absurd told.symm ok_ne_error, fun _ => ?_⟩
      · rw [← version]
        exact late.version v same
      · obtain ⟨same, record⟩ := late.failed rfl
        exact ⟨same.trans version, record.trans (congrArg Settings.recordedVersion settings)⟩
    · rw [found] at late
      rw [takeAll_of_ok found] at goesOn
      have concluded : (conclude after).2.desk.record = after.desk.record :=
        congrArg Settings.recordedVersion conclude_settings
      rw [Attempt.bind_of_ok (goesOn.trans rfl)]
      refine ⟨fun v same => ?_, fun v told => ?_, fun failed => ?_⟩
      · rw [conclude_negotiation] at same
        rw [concluded, ← version]
        exact late.version v same
      · rw [conclude_fst] at told
        cases told
      · rw [conclude_fst] at failed
        cases failed

theorem take_remembers (legible : Legible ch) (step : Step) (scene : Scene ω) :
    Remembers scene (step.take ch scene) := by
  by_cases whole : step = .settle
  · subst whole
    exact settle_remembers legible scene
  · exact single_remembers legible whole scene

/-! ## Acts -/

/-- The act leaves the record of the version to the negotiations. -/
def Act.KeepsRecord : Act → Prop
  | .assign change => ∀ s, (change s).recordedVersion = s.recordedVersion
  | .make | .negotiate | .step _ _ => True

/-- What an act makes of the version: the record is asked and written for as it should be, the
version of each negotiation is one that there was before or the one on record, and a fault leaves
all of it alone. -/
structure Keeps (ch : Channel σ ω) (office : Office ω) (visits : List Visit)
    (result : Except Fault Reply × Office ω) : Prop where
  attended : Attended ch office.desk visits result.2.desk
  recording : Recording office.desk.record (visits.flatMap Visit.exchanges) result.2.desk.record
  versions : ∀ n ∈ result.2.negotiations, ∀ v, n.version = some v →
    (∃ earlier ∈ office.negotiations, earlier.version = some v) ∨
      knownVersion result.2.desk.record = some v
  told : ∀ v, result.1 = .ok (.version v) → knownVersion result.2.desk.record = some v
  failed : ∀ {fault}, result.1 = .error fault → result.2.desk.record = office.desk.record ∧
    result.2.negotiations.map Negotiation.version = office.negotiations.map Negotiation.version

/-- An act that is done without an answer. -/
theorem Keeps.done {office now : Office ω} {visits : List Visit}
    (attended : Attended ch office.desk visits now.desk)
    (recording : Recording office.desk.record (visits.flatMap Visit.exchanges) now.desk.record)
    (versions : ∀ n ∈ now.negotiations, ∀ v, n.version = some v →
      (∃ earlier ∈ office.negotiations, earlier.version = some v) ∨
        knownVersion now.desk.record = some v) :
    Keeps ch office visits (.ok .done, now) :=
  ⟨attended, recording, versions, nofun, nofun⟩

/-- An act that makes no negotiation. -/
theorem Keeps.refused {office : Office ω} {desk : Desk ω} {fault : Fault} {visits : List Visit}
    (attended : Attended ch office.desk visits desk)
    (recording : Recording office.desk.record (visits.flatMap Visit.exchanges) desk.record)
    (record : desk.record = office.desk.record) :
    Keeps ch office visits (.error fault, ⟨desk, office.negotiations⟩) :=
  ⟨attended, recording, fun n present _ same => .inl ⟨n, present, same⟩, nofun,
    fun _ => ⟨record, rfl⟩⟩

theorem map_set_alike {α β : Type} {xs : List α} {i : Nat} {a b : α} {f : α → β}
    (present : xs[i]? = some a) (alike : f b = f a) : (xs.set i b).map f = xs.map f := by
  obtain ⟨inside, own⟩ := List.getElem?_eq_some_iff.mp present
  have bound : i < (xs.map f).length := by simpa using inside
  have place : (xs.map f)[i] = f a := by simp [own]
  rw [List.map_set, alike, ← place, List.set_getElem_self]

theorem act_keeps (legible : Legible ch) {act : Act} (untouched : act.KeepsRecord)
    (office : Office ω) : ∃ visits, Keeps ch office visits (act.take ch office) := by
  have does := does_take ch office act
  generalize act.take ch office = result at does ⊢
  cases does with
  | refused making made => exact ⟨[], .refused (.none rfl rfl) .none rfl⟩
  | made made =>
    refine ⟨[], .done (.none rfl rfl) .none fun n present v same => ?_⟩
    rcases List.mem_append.mp present with present | added
    · exact .inl ⟨n, present, same⟩
    · cases List.mem_singleton.mp added
      obtain ⟨nodes, -, rfl⟩ := eq_of_made made
      cases same
  | @failed n fault scene made settled =>
    obtain ⟨visits, toured⟩ := settle_toured ch ⟨office.desk, n⟩
    have remembers := settle_remembers legible ⟨office.desk, n⟩
    rw [Step.take, Attempt.bind_pure_apply] at remembers
    rw [settled] at toured remembers
    exact ⟨visits, .refused toured.attended toured.recording (remembers.failed rfl).2⟩
  | @settled fresh nodes scene made settled =>
    obtain ⟨visits, toured⟩ := settle_toured ch ⟨office.desk, fresh⟩
    have remembers := settle_remembers legible ⟨office.desk, fresh⟩
    rw [Step.take, Attempt.bind_pure_apply] at remembers
    rw [settled] at toured remembers
    refine ⟨visits, .done toured.attended toured.recording fun n present v same => ?_⟩
    rcases List.mem_append.mp present with present | added
    · exact .inl ⟨n, present, same⟩
    · cases List.mem_singleton.mp added
      obtain ⟨nodes, -, rfl⟩ := eq_of_made made
      rcases remembers.version v same with own | known
      · cases own
      · exact .inr known
  | nobody =>
    exact ⟨[], .done (.none rfl rfl) .none fun n present v same => .inl ⟨n, present, same⟩⟩
  | @stepped i step n outcome scene present taken =>
    obtain ⟨visits, toured, -⟩ := take_toured ch step ⟨office.desk, n⟩
    have remembers := take_remembers legible step ⟨office.desk, n⟩
    rw [taken] at toured remembers
    refine ⟨visits, toured.attended, toured.recording, fun m there v same => ?_, remembers.told,
      fun failed => ?_⟩
    · rcases List.mem_or_eq_of_mem_set there with there | rfl
      · exact .inl ⟨m, there, same⟩
      · refine (remembers.version v same).imp_left fun before => ⟨n, ?_, before⟩
        exact List.mem_of_getElem? present
    · obtain ⟨version, record⟩ := remembers.failed failed
      exact ⟨record, map_set_alike present version⟩
  | @assigned change =>
    have recording :
        Recording office.desk.record [] (change office.desk.settings).recordedVersion := by
      rw [untouched office.desk.settings]
      exact .none
    exact ⟨[], .done (.none rfl rfl) recording fun n present v same => .inl ⟨n, present, same⟩⟩

/-! ## Histories -/

theorem work_append (ch : Channel σ ω) (early late : List Act) (office : Office ω) :
    work ch (early ++ late) office = work ch late (work ch early office) := by
  induction early generalizing office with
  | nil => rfl
  | cons act rest ih => exact ih _

theorem work_recording (legible : Legible ch) {history : List Act}
    (untouched : ∀ act ∈ history, act.KeepsRecord) (office : Office ω) :
    ∃ visits, Attended ch office.desk visits (work ch history office).desk ∧
      Recording office.desk.record (visits.flatMap Visit.exchanges)
        (work ch history office).desk.record := by
  induction history generalizing office with
  | nil => exact ⟨[], .none rfl rfl, .none⟩
  | cons act rest ih =>
    obtain ⟨visits, keeps⟩ := act_keeps legible (untouched act List.mem_cons_self) office
    obtain ⟨more, attended, recording⟩ :=
      ih (fun later present => untouched later (List.mem_cons_of_mem _ present))
        (act.take ch office).2
    refine ⟨visits ++ more, keeps.attended.append attended, ?_⟩
    rw [List.flatMap_append]
    exact keeps.recording.append recording

/-- A version that is known stays known. -/
theorem known_kept {record now : Option String} {exchanges : List Exchange}
    (recording : Recording record exchanges now) {v : Version}
    (known : knownVersion record = some v) : knownVersion now = some v := by
  obtain ⟨text, given, -⟩ := Check.knownVersion_eq_some.mp known
  rw [(recording.of_stated given).1]
  exact known

theorem work_versions (legible : Legible ch) {history : List Act}
    (untouched : ∀ act ∈ history, act.KeepsRecord) {office : Office ω}
    (same : ∀ n ∈ office.negotiations, ∀ v, n.version = some v →
      knownVersion office.desk.record = some v) :
    ∀ n ∈ (work ch history office).negotiations, ∀ v, n.version = some v →
      knownVersion (work ch history office).desk.record = some v := by
  induction history generalizing office with
  | nil => exact same
  | cons act rest ih =>
    obtain ⟨visits, keeps⟩ := act_keeps legible (untouched act List.mem_cons_self) office
    refine ih (fun later present => untouched later (List.mem_cons_of_mem _ present))
      fun n present v own => ?_
    rcases keeps.versions n present v own with ⟨earlier, there, before⟩ | known
    · exact known_kept keeps.recording (same earlier there v before)
    · exact known

theorem answers_known (legible : Legible ch) {history : List Act}
    (untouched : ∀ act ∈ history, act.KeepsRecord) (office : Office ω) {v : Version}
    (told : .ok (.version v) ∈ answers ch history office) :
    knownVersion (work ch history office).desk.record = some v := by
  induction history generalizing office with
  | nil => exact absurd told List.not_mem_nil
  | cons act rest ih =>
    have later : ∀ act ∈ rest, act.KeepsRecord := fun later present =>
      untouched later (List.mem_cons_of_mem _ present)
    rcases List.mem_cons.mp told with now | told
    · obtain ⟨visits, keeps⟩ := act_keeps legible (untouched act List.mem_cons_self) office
      obtain ⟨more, -, recording⟩ := work_recording legible later (act.take ch office).2
      exact known_kept recording (keeps.told v now.symm)
    · exact ih later _ told

/-- What is remembered of the version of the cluster in an office that was at first without
negotiations. -/
structure Memo (ch : Channel σ ω) (first : Office ω) (history : List Act) : Prop where
  /-- It was told once at most, and only where none had been on record. -/
  once : ∃ visits, Attended ch first.desk visits (work ch history first).desk ∧
    (toldVersions (visits.flatMap Visit.exchanges) = [] ∨
      ∃ v, toldVersions (visits.flatMap Visit.exchanges) = [v] ∧ stated first.desk.record = none ∧
        (work ch history first).desk.record = some v.render)
  /-- Since there has been a record it has not changed, and the version has not been asked for. -/
  final : ∀ {early late : List Act} {text : String}, history = early ++ late →
    stated (work ch early first).desk.record = some text →
    (work ch history first).desk.record = (work ch early first).desk.record ∧
      ∃ visits, Attended ch (work ch early first).desk visits (work ch history first).desk ∧
        ∀ e ∈ visits.flatMap Visit.exchanges, e.query ≠ .version
  /-- Every version that was found is the one on record. -/
  found : ∀ v, .ok (.version v) ∈ answers ch history first →
    knownVersion (work ch history first).desk.record = some v
  /-- Every negotiation that has a version has this one. -/
  shared : ∀ n ∈ (work ch history first).negotiations, ∀ v, n.version = some v →
    knownVersion (work ch history first).desk.record = some v
  /-- An act that fails now changes neither the record nor the version of a negotiation. -/
  failed : ∀ (act : Act) {fault : Fault} {after : Office ω},
    act.take ch (work ch history first) = (.error fault, after) →
    after.desk.record = (work ch history first).desk.record ∧
      after.negotiations.map Negotiation.version =
        (work ch history first).negotiations.map Negotiation.version

/-- If every version that the cluster tells can be read from a text and the caller leaves the record
of it alone, then all negotiations at a desk share one version, whatever else is done and assigned
and whichever questions fail. -/
theorem version_memo (legible : Legible ch) (desk : Desk ω) {history : List Act}
    (untouched : ∀ act ∈ history, act.KeepsRecord) : Memo ch ⟨desk, []⟩ history where
  once := by
    obtain ⟨visits, attended, recording⟩ := work_recording legible untouched ⟨desk, []⟩
    exact ⟨visits, attended, recording.told_once⟩
  final {early late text} split known := by
    subst split
    obtain ⟨visits, attended, recording⟩ :=
      work_recording legible (fun act present => untouched act (List.mem_append_right _ present))
        (work ch early ⟨desk, []⟩)
    obtain ⟨same, others⟩ := recording.of_stated known
    rw [work_append]
    exact ⟨same, visits, attended, others⟩
  found v told := answers_known legible untouched ⟨desk, []⟩ told
  shared := work_versions legible untouched fun _ present => absurd present List.not_mem_nil
  failed act fault after refused := by
    have kept : act.KeepsRecord := by
      cases act with
      | make | negotiate | step => trivial
      | assign change => cases refused
    obtain ⟨visits, keeps⟩ := act_keeps legible kept (work ch history ⟨desk, []⟩)
    rw [refused] at keeps
    exact keeps.failed rfl

/-! ## Over REST -/

/-- Over REST a version is read from the text that the cluster gives for it. -/
theorem legible_over_rest (client : Http.Client ω) : Legible (Rest.channel client) := by
  intro session line v told
  have came : (Rest.version client ⟨session, line⟩).1 = .ok v := told
  rw [Rest.version, Attempt.bind_apply] at came
  rcases fetched : Rest.fetch client "/" ⟨session, line⟩ with ⟨fault | document, next⟩
  · rw [fetched] at came
    cases came
  · rw [fetched] at came
    have read : Rest.versionOf document = .ok v := mapError_eq_ok.mp came
    obtain ⟨_, number, -, -, legible⟩ := Rest.versionOf_eq_ok.mp read
    exact ⟨number.text, legible⟩

/-- Two negotiations share a desk. The first one does not find the version, as its only node is
down. The second one finds it, and from then on the first one has it without another question. -/
theorem version_found_by_another :
    let ch := Rest.channel Http.Script.wire
    let told := "\x7b\"version\": \x7b\"number\": \"7.17.3\"\x7d\x7d"
    let script : Http.Script :=
      [{ times := some 1, reply := .error (.client "ConnectError" "down") },
        { reply := .ok ⟨200, told.toUTF8.data.toList⟩ }]
    let first : Office (Rest.Line Http.Script) :=
      ⟨⟨{ nodes := ["a:9200"], wanOnly := true }, ⟨script, []⟩, {}⟩, []⟩
    let down := TransportFault.allNodesFailed [("a:9200", "ConnectError('down')")]
    let history : List Act :=
      [.make, .step 0 .findVersion, .negotiate, .assign fun s => { s with allowRedReads := true },
        .step 0 .findVersion]
    (∀ act ∈ history, act.KeepsRecord) ∧
      answers ch history first =
        [.ok .done, .error (.configuration (.unknownVersion down)), .ok .done, .ok .done,
          .ok (.version ⟨7⟩)] ∧
      (work ch history first).desk.record = some "7.x" ∧ Memo ch first history := by
  intro ch told script first down history
  have untouched : ∀ act ∈ history, act.KeepsRecord := by
    intro act present
    simp only [history, List.mem_cons, List.not_mem_nil, or_false] at present
    rcases present with rfl | rfl | rfl | rfl | rfl
    · trivial
    · trivial
    · trivial
    · exact fun _ => rfl
    · trivial
  exact ⟨untouched, by decide +kernel, by decide +kernel,
    version_memo (legible_over_rest Http.Script.wire) first.desk untouched⟩

end Negotiation

end Clearance
