import Clearance.Cluster.Canned
import Clearance.Proofs.Negotiation.Runs

/-!
# What holds along every run

The cluster may answer anything to any question, and something else the next time. Whatever steps
are taken, and whichever of them fail, the roster keeps its form: no address stands in it twice, it
never runs empty, and its options stay what they were.

Results:
1. `Follows`, `run_follows`: what a roster keeps of the one it came from.
2. `StepLaw`, `stepLaw`: what one step does to the roster, step by step and answer by answer.

Both hold wherever a run can get to.
-/

namespace Clearance.Negotiation

open Cluster (Channel Query)

variable {σ ω : Type} {ch : Channel σ ω} {scene : Scene ω}

/-! ## Rosters along a run -/

/-- What a roster keeps of the one that it came from. -/
structure Follows (first now : Roster) : Prop where
  distinct : now.workingSet.Nodup
  nonempty : first.workingSet ≠ [] → now.workingSet ≠ []
  discovery : now.discoveryEnabled = first.discoveryEnabled
  restriction : now.restriction = first.restriction

theorem Follows.refl {r : Roster} (distinct : r.workingSet.Nodup) : Follows r r :=
  ⟨distinct, fun nonempty => nonempty, rfl, rfl⟩

theorem Follows.trans {first next now : Roster} (early : Follows first next)
    (late : Follows next now) : Follows first now where
  distinct := late.distinct
  nonempty declared := late.nonempty (early.nonempty declared)
  discovery := late.discovery.trans early.discovery
  restriction := late.restriction.trans early.restriction

theorem follows_extend (r : Roster) (found : List String) : Follows r (r.extend found) where
  distinct := r.nodup_extend found
  nonempty declared empty := by
    obtain ⟨a, present⟩ := List.exists_mem_of_ne_nil _ declared
    have kept : a ∈ (r.extend found).workingSet := Roster.mem_extend.mpr (.inl present)
    rw [empty] at kept
    cases kept
  discovery := rfl
  restriction := rfl

theorem follows_narrow {r u : Roster} (distinct : r.workingSet.Nodup) {role : Role}
    {listed : List String} (narrowed : r.narrow role listed = .ok u) : Follows r u := by
  have fewer := Roster.sublist_of_narrow narrowed
  obtain ⟨left, rfl⟩ := Roster.narrow_eq_ok.mp narrowed
  exact ⟨distinct.sublist fewer, fun _ => left, rfl, rfl⟩

theorem Moves.follows (distinct : scene.negotiation.roster.workingSet.Nodup) {now : Roster}
    (moved : Moves ch scene now) : Follows scene.negotiation.roster now := by
  cases moved with
  | stays => exact .refl distinct
  | grows on answer => exact follows_extend _ _
  | narrows restricted answer left => exact follows_narrow distinct left

theorem run_follows (ch : Channel σ ω) (scene : Scene ω)
    (distinct : scene.negotiation.roster.workingSet.Nodup) (steps : List Step) :
    Follows scene.negotiation.roster (run ch steps scene).negotiation.roster := by
  refine run_keeps (P := fun now => Follows scene.negotiation.roster now.negotiation.roster)
    (fun now step single soFar => ?_) (fun now soFar => ?_) steps (.refl distinct)
  · exact soFar.trans ((take_single single).moves.follows soFar.distinct)
  · rw [conclude_negotiation]
    exact soFar

/-- A negotiation is made of the declared nodes and of the options in the settings. -/
theorem eq_of_made {s : Settings} {n : Negotiation} (made : Negotiation.ofSettings s = .ok n) :
    ∃ nodes, s.declaredNodes = .ok nodes ∧
      n = ⟨Roster.ofNodes nodes s.discoveryEnabled s.restriction, none⟩ := by
  rw [Negotiation.ofSettings, Roster.ofSettings] at made
  cases declared : s.declaredNodes with
  | error fault =>
    rw [declared] at made
    cases made
  | ok nodes =>
    rw [declared] at made
    cases made
    exact ⟨nodes, rfl, rfl⟩

theorem roster_of_settings {s : Settings} {n : Negotiation}
    (made : Negotiation.ofSettings s = .ok n) :
    ∃ nodes, n.roster = Roster.ofNodes nodes s.discoveryEnabled s.restriction := by
  obtain ⟨nodes, -, rfl⟩ := eq_of_made made
  exact ⟨nodes, rfl⟩

theorem nodup_of_settings {s : Settings} {n : Negotiation}
    (made : Negotiation.ofSettings s = .ok n) : n.roster.workingSet.Nodup := by
  obtain ⟨nodes, roster⟩ := roster_of_settings made
  rw [roster]
  exact nodup_eraseDups nodes

/-- No settings restrict the nodes to any role. -/
theorem restriction_proper {s : Settings} {n : Negotiation}
    (made : Negotiation.ofSettings s = .ok n) : n.roster.restriction ≠ some .any := by
  obtain ⟨nodes, roster⟩ := roster_of_settings made
  rw [roster, Roster.ofNodes, Settings.restriction]
  repeat' split
  all_goals nofun

/-! ## One step -/

/-- Between the two scenes a session on the working set was opened, one question was answered in it,
and it was closed. -/
def Exchanged (before : Scene ω) (query : Query) (answer : query.Answer) (after : Scene ω) : Prop :=
  after.desk.journal.events =
    before.desk.journal.events ++
      [.opened before.negotiation.roster.workingSet, .asked query (.ok answer), .closed]

/-- What growth does where it succeeds: the addresses that the cluster gave and that were missing
are appended, every one where it came first. -/
def Grown (before : Scene ω) (reply : Reply) (after : Scene ω) : Prop :=
  let r := before.negotiation.roster
  (r.discoveryEnabled = false ∧ reply = .found none ∧ after = before) ∨
  (r.discoveryEnabled = true ∧ ∃ found, reply = .found (some found) ∧
    Exchanged before (.nodes .any) found after ∧
    after.negotiation.roster =
      { r with workingSet := r.workingSet ++ (found.filter (· ∉ r.workingSet)).eraseDups })

/-- What narrowing does where it succeeds: the nodes that the cluster lists for the role are left,
in their order. -/
def Narrowed (before : Scene ω) (after : Scene ω) : Prop :=
  let r := before.negotiation.roster
  (r.restriction = none ∧ after = before) ∨
  (∃ role listed, r.restriction = some role ∧ Exchanged before (.nodes role) listed after ∧
    after.negotiation.roster = { r with workingSet := r.workingSet.filter (· ∈ listed) })

/-- What a step does to the roster of the scene before it. -/
structure StepLaw (ch : Channel σ ω) (before : Scene ω) (step : Step) : Prop where
  /-- Growth and narrowing alone touch the roster, -/
  untouched : step ≠ .extendNodes → step ≠ .narrowNodes → step ≠ .settle →
    (step.take ch before).2.negotiation.roster = before.negotiation.roster
  /-- a whole negotiation where it takes them itself. -/
  whole : step = .settle → ∃ taken, taken <+: phases before.desk.settings ∧
    (step.take ch before).2.negotiation = (run ch taken before).negotiation
  grown : step = .extendNodes → ∀ {reply}, (step.take ch before).1 = .ok reply →
    Grown before reply (step.take ch before).2 ∧
      before.negotiation.roster.workingSet <+:
        (step.take ch before).2.negotiation.roster.workingSet
  narrowed : step = .narrowNodes → ∀ {reply}, (step.take ch before).1 = .ok reply →
    Narrowed before (step.take ch before).2 ∧
      (step.take ch before).2.negotiation.roster.workingSet.Sublist
        before.negotiation.roster.workingSet
  /-- A single step that fails leaves the roster alone. -/
  failed : step ≠ .settle → ∀ {fault}, (step.take ch before).1 = .error fault →
    (step.take ch before).2.negotiation.roster = before.negotiation.roster

theorem take_grown (distinct : scene.negotiation.roster.workingSet.Nodup) {reply : Reply}
    (succeeded : (Step.extendNodes.take ch scene).1 = .ok reply) :
    Grown scene reply (Step.extendNodes.take ch scene).2 := by
  rw [Step.take, Attempt.bind_pure_apply] at succeeded ⊢
  rcases extendNodes_cases ch scene with
    ⟨off, grown⟩ | ⟨on, found, session, world, -, grown⟩ | ⟨-, fault, session, world, -, grown⟩
  · rw [grown] at succeeded ⊢
    cases succeeded
    exact .inl ⟨off, rfl, rfl⟩
  · rw [grown] at succeeded ⊢
    cases succeeded
    refine .inr ⟨on, found, rfl, rfl, ?_⟩
    rw [← Roster.workingSet_extend distinct found]
    rfl
  · rw [grown] at succeeded
    cases succeeded

theorem take_narrowed {reply : Reply}
    (succeeded : (Step.narrowNodes.take ch scene).1 = .ok reply) :
    Narrowed scene (Step.narrowNodes.take ch scene).2 := by
  rw [Step.take, Attempt.bind_pure_apply] at succeeded ⊢
  rcases narrowNodes_cases ch scene with
    ⟨off, narrowed⟩ | ⟨role, listed, session, world, u, restricted, -, left, narrowed⟩ |
      ⟨-, fault, failed, -⟩
  · rw [narrowed]
    exact .inl ⟨off, rfl⟩
  · obtain ⟨-, rfl⟩ := Roster.narrow_eq_ok.mp left
    rw [narrowed]
    exact .inr ⟨role, listed, restricted, rfl, rfl⟩
  · rw [failed] at succeeded
    cases succeeded

theorem Grown.front {before after : Scene ω} {reply : Reply} (grown : Grown before reply after) :
    before.negotiation.roster.workingSet <+: after.negotiation.roster.workingSet := by
  rcases grown with ⟨-, -, rfl⟩ | ⟨-, found, -, -, roster⟩
  · exact List.prefix_rfl
  · rw [roster]
    exact List.prefix_append _ _

theorem Narrowed.fewer {before after : Scene ω} (narrowed : Narrowed before after) :
    after.negotiation.roster.workingSet.Sublist before.negotiation.roster.workingSet := by
  rcases narrowed with ⟨-, rfl⟩ | ⟨role, listed, -, -, roster⟩
  · exact List.Sublist.refl _
  · rw [roster]
    exact List.filter_sublist

theorem take_whole :
    ∃ taken, taken <+: phases scene.desk.settings ∧
      (Step.settle.take ch scene).2.negotiation = (run ch taken scene).negotiation := by
  obtain ⟨taken, early, same⟩ := settle_run ch scene
  refine ⟨taken, early, ?_⟩
  rw [Step.take, Attempt.bind_pure_apply]
  rcases same with stopped | finished
  · rw [stopped]
  · rw [finished, conclude_negotiation]

theorem stepLaw (distinct : scene.negotiation.roster.workingSet.Nodup) (step : Step) :
    StepLaw ch scene step where
  untouched noGrowth noNarrowing single := (take_single single).untouched noGrowth noNarrowing
  whole whole := by
    subst whole
    exact take_whole
  grown growth reply succeeded := by
    subst growth
    have grown := take_grown distinct succeeded
    exact ⟨grown, grown.front⟩
  narrowed narrowing reply succeeded := by
    subst narrowing
    have narrowed := take_narrowed succeeded
    exact ⟨narrowed, narrowed.fewer⟩
  failed single _ failed := (take_single single).failed failed

/-! ## Wherever a run gets to -/

/-- From wherever the steps have led, every later roster follows the one there, nothing but the
recorded version is written in the settings, and the next step does what its law says. -/
theorem roster_along_runs {s : Settings} {n : Negotiation}
    (made : Negotiation.ofSettings s = .ok n) (ch : Channel σ ω) (desk : Desk ω)
    (steps more : List Step) (step : Step) :
    let now := run ch steps ⟨desk, n⟩
    Follows now.negotiation.roster (run ch more now).negotiation.roster ∧
      Recorded now.desk.settings (run ch more now).desk.settings ∧ StepLaw ch now step := by
  intro now
  have start := run_follows ch ⟨desk, n⟩ (nodup_of_settings made) steps
  exact ⟨run_follows ch now start.distinct more, run_settings more, stepLaw start.distinct step⟩

/-- Growth after a whole negotiation brings the nodes back that it narrowed away, at the end. -/
theorem roster_along_settled_run :
    let n : Negotiation := ⟨⟨["localhost:9200"], true, some .data⟩, none⟩
    let cluster : Cluster.Canned :=
      { nodes := [(.any, ["a:9200", "b:9200", "a:9200"]), (.data, ["b:9200"])] }
    let now := run Cluster.Canned.channel [.settle] ⟨⟨{}, cluster, {}⟩, n⟩
    let later := run Cluster.Canned.channel [.extendNodes] now
    Negotiation.ofSettings {} = .ok n ∧
      later.negotiation.roster.workingSet = ["b:9200", "a:9200"] ∧
      Follows now.negotiation.roster later.negotiation.roster ∧
      Recorded now.desk.settings later.desk.settings ∧
      StepLaw Cluster.Canned.channel now .extendNodes :=
  ⟨rfl, by decide,
    roster_along_runs (s := {}) rfl Cluster.Canned.channel _ [.settle] [.extendNodes] .extendNodes⟩

end Clearance.Negotiation
