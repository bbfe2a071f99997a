import Clearance.Cluster.Canned
import Clearance.Proofs.Negotiation.Course
import Clearance.Proofs.Negotiation.Histories
import Clearance.Proofs.Negotiation.Invariants
import Clearance.Proofs.Settings.Conflicts

/-!
# Which settings a negotiation goes by

A negotiation asks for nodes as the settings wanted it when it was made. What the caller assigns to
the settings later is checked by a whole negotiation, but has no part in which nodes it asks for.

Results:
1. `settle_within`: a whole negotiation asks for no other nodes than the options of its roster want.
2. `settle_stays`: without these options it leaves the roster alone.
3. `nodes_as_made`: so it goes by the settings that it was made from, and by any others that agree
   with them.
4. `late_wan_still_asks`: it does not go by the settings that it has just checked.
-/

namespace Clearance.Negotiation

open Cluster (Aim Canned Channel Query Visit)

variable {σ ω : Type} {ch : Channel σ ω} {scene : Scene ω}

/-- The nodes that the visits ask for are wanted: all nodes where there is discovery, and those of
the role of the restriction. -/
def Within (discoveryEnabled : Bool) (restriction : Option Role) (visits : List Visit) : Prop :=
  ∀ visit ∈ visits, ∀ role, Query.nodes role ∈ visit.aim.queries →
    role = .any ∧ discoveryEnabled = true ∨ restriction = some role

theorem course_within {s : Settings} {r : Roster} {grown narrowed : List String} {aim : Aim}
    (planned : aim ∈ (course s r grown narrowed).flatMap Stage.aims) {role : Role}
    (asked : Query.nodes role ∈ aim.queries) :
    role = .any ∧ r.discoveryEnabled = true ∨ r.restriction = some role := by
  obtain ⟨stage, present, planned⟩ := List.mem_flatMap.mp planned
  simp only [course, List.mem_cons, List.mem_append, List.not_mem_nil, or_false] at present
  rcases present with rfl | naming | rfl | rfl | rfl
  · cases planned
  · split at naming
    · cases List.mem_singleton.mp naming
      cases List.mem_singleton.mp planned
      simp at asked
    · cases naming
  · dsimp only at planned
    split at planned
    · next on =>
      cases List.mem_singleton.mp planned
      simp only [List.mem_singleton, Query.nodes.injEq] at asked
      exact .inl ⟨asked, on⟩
    · cases planned
  · obtain ⟨restricted, present, rfl⟩ := List.mem_map.mp planned
    dsimp only [narrowingQueries] at asked
    split at asked
    · cases asked
    · simp only [List.mem_singleton, Query.nodes.injEq] at asked
      subst asked
      exact .inr (Option.mem_toList.mp present)
  · cases List.mem_singleton.mp planned
    dsimp only at asked
    split at asked
    all_goals simp at asked

/-- A whole negotiation asks for no other nodes than the options of its roster want. -/
theorem settle_within (ch : Channel σ ω) (scene : Scene ω) :
    ∃ visits, Visited scene visits (settle ch scene).2 ∧
      Within scene.negotiation.roster.discoveryEnabled scene.negotiation.roster.restriction
        visits := by
  obtain ⟨visits, visited, first⟩ := settle_visits ch scene
  refine ⟨visits, visited, fun visit present role asked => ?_⟩
  exact course_within (first.subset (List.mem_map_of_mem present)) asked

theorem Moves.stays_without_options (off : scene.negotiation.roster.discoveryEnabled = false)
    (free : scene.negotiation.roster.restriction = none) {now : Roster}
    (moved : Moves ch scene now) : now = scene.negotiation.roster := by
  cases moved with
  | stays => rfl
  | grows on answer =>
    rw [off] at on
    cases on
  | narrows restricted answer left =>
    rw [free] at restricted
    cases restricted

/-- A roster with neither option is left alone by a whole negotiation. -/
theorem settle_stays (ch : Channel σ ω) (scene : Scene ω)
    (off : scene.negotiation.roster.discoveryEnabled = false)
    (free : scene.negotiation.roster.restriction = none) :
    (settle ch scene).2.negotiation.roster = scene.negotiation.roster := by
  have kept := take_keeps (P := fun now => now.negotiation.roster = scene.negotiation.roster)
    (fun now step single (same : now.negotiation.roster = scene.negotiation.roster) => by
      have moved := (take_single single : Single ch now step).moves
      rw [moved.stays_without_options (by rw [same, off]) (by rw [same, free]), same])
    (fun now same => by rw [conclude_negotiation, same]) .settle rfl
  rw [Step.take, Attempt.bind_pure_apply] at kept
  exact kept

/-- A negotiation goes by the settings that it was made from, whatever is assigned to them
afterwards and whatever steps are taken: a whole negotiation asks for no other nodes than those that
the settings wanted then. So it goes by any settings, be they those of the moment, which want the
same as those did; and where such settings pass the checks for a wide area network, no nodes are
asked for and the working set stays. -/
theorem nodes_as_made {s : Settings} {n : Negotiation} (made : Negotiation.ofSettings s = .ok n)
    (ch : Channel σ ω) (world : ω) (journal : Cluster.Journal) (history : List Turn) :
    let now := live ch history ⟨⟨s, world, journal⟩, n⟩
    ∃ visits, Visited now visits (settle ch now).2 ∧
      ∀ t : Settings, t.discoveryEnabled = s.discoveryEnabled → t.restriction = s.restriction →
        Within t.discoveryEnabled t.restriction visits ∧
        (t.validate = .ok () → t.wanOnly = true →
          (∀ visit ∈ visits, ∀ role, Query.nodes role ∉ visit.aim.queries) ∧
          (settle ch now).2.negotiation.roster = now.negotiation.roster) := by
  intro now
  obtain ⟨nodes, roster⟩ := roster_of_settings made
  have options := live_options ch history ⟨⟨s, world, journal⟩, n⟩
  have discovery : now.negotiation.roster.discoveryEnabled = s.discoveryEnabled := by
    rw [options.discovery]
    exact congrArg Roster.discoveryEnabled roster
  have restriction : now.negotiation.roster.restriction = s.restriction := by
    rw [options.restriction]
    exact congrArg Roster.restriction roster
  obtain ⟨visits, visited, within⟩ := settle_within ch now
  rw [discovery, restriction] at within
  refine ⟨visits, visited, fun t sameDiscovery sameRestriction => ⟨?_, fun valid wan => ?_⟩⟩
  · rw [sameDiscovery, sameRestriction]
    exact within
  · have off : s.discoveryEnabled = false := by
      rw [← sameDiscovery]
      exact (Settings.wan_options valid wan).1
    have free : s.restriction = none := by
      rw [← sameRestriction]
      exact Settings.wan_restriction valid wan
    refine ⟨fun visit present role asked => ?_, ?_⟩
    · rcases within visit present role asked with ⟨-, on⟩ | restricted
      · rw [off] at on
        cases on
      · rw [free] at restricted
        cases restricted
    · exact settle_stays ch now (by rw [discovery, off]) (by rw [restriction, free])

/-- Settings for a wide area network are changed to others that want all nodes and those with data.
A negotiation that was made from them before goes on without asking for nodes. -/
theorem wan_lifted_later :
    let s : Settings := { nodes := ["a:9200"], wanOnly := true }
    let n : Negotiation := ⟨⟨["a:9200"], false, none⟩, none⟩
    let cluster : Canned := { nodes := [(.any, ["a:9200", "b:9200"]), (.data, ["b:9200"])] }
    let now := live Canned.channel [.assign fun t => { t with wanOnly := false }]
      ⟨⟨s, cluster, {}⟩, n⟩
    Negotiation.ofSettings s = .ok n ∧ s.validate = .ok () ∧
      now.desk.settings.discoveryEnabled = true ∧ now.desk.settings.restriction = some .data ∧
      ∃ visits, Visited now visits (settle Canned.channel now).2 ∧
        (∀ visit ∈ visits, ∀ role, Query.nodes role ∉ visit.aim.queries) ∧
        (settle Canned.channel now).2.negotiation.roster.workingSet = ["a:9200"] := by
  intro s n cluster now
  have made : Negotiation.ofSettings s = .ok n := rfl
  obtain ⟨visits, visited, goesBy⟩ := nodes_as_made made Canned.channel cluster {}
    [.assign fun t => { t with wanOnly := false }]
  obtain ⟨none, stays⟩ := (goesBy s rfl rfl).2 rfl rfl
  exact ⟨made, rfl, rfl, rfl, visits, visited, none, congrArg Roster.workingSet stays⟩

/-- The settings of a negotiation are changed to ones for a wide area network. They pass the checks,
and want no nodes; and still all nodes are asked for, and those with data, and the working set does
not stay. -/
theorem late_wan_still_asks :
    let s : Settings := { nodes := ["a:9200"] }
    let n : Negotiation := ⟨⟨["a:9200"], true, some .data⟩, none⟩
    let cluster : Canned := { nodes := [(.any, ["a:9200", "b:9200"]), (.data, ["b:9200"])] }
    let now := live Canned.channel [.assign fun t => { t with wanOnly := true }]
      ⟨⟨s, cluster, {}⟩, n⟩
    let after := (settle Canned.channel now).2
    Negotiation.ofSettings s = .ok n ∧ now.desk.settings.validate = .ok () ∧
      now.desk.settings.wanOnly = true ∧ now.desk.settings.discoveryEnabled = false ∧
      now.desk.settings.restriction = none ∧
      after.desk.journal.queries = [.nodes .any, .nodes .data, .version] ∧
      now.negotiation.roster.workingSet = ["a:9200"] ∧
      after.negotiation.roster.workingSet = ["b:9200"] :=
  ⟨rfl, rfl, rfl, rfl, rfl, by decide, rfl, by decide⟩

end Clearance.Negotiation
