import Clearance.Fault.Message
import Clearance.Proofs.Negotiation.OverRest

/-!
# Discovery, then narrowing

Where the cluster describes the same nodes to both, growth and narrowing to a role lead to the nodes
that can play the role, whatever the working set was before. A node that is listed for a role is
listed among all of them, so that none can get lost between the two.

Results:
1. `mem_grown_retained`, `front_grown_retained`: what the two make of a working set.
2. `extendNodes_described`, `narrowNodes_described`: what the two steps do.

Put together they have two outcomes, and no node is found and gone again.
-/

namespace Clearance.Negotiation

open Cluster (Channel)
open Rest (Line Node Describes)

variable {ω : Type} {client : Http.Client ω} {scene : Scene (Line ω)} {nodes : List Node}

/-! ## Working sets -/

theorem mem_grown {r : Roster} {role : Role} {a : String}
    (listed : a ∈ Node.addresses nodes role) :
    a ∈ (r.extend (Node.addresses nodes .any)).workingSet :=
  Roster.mem_extend.mpr (.inr (Rest.addresses_subset nodes role a listed))

theorem addresses_eq_nil {role : Role} :
    Node.addresses nodes role = [] ↔ ∀ node ∈ nodes, node.satisfies role = false := by
  constructor
  · intro empty node present
    cases able : node.satisfies role with
    | false => rfl
    | true =>
      have listed := Rest.mem_addresses.mpr ⟨node, present, able, rfl⟩
      rw [empty] at listed
      cases listed
  · intro unable
    refine List.eq_nil_iff_forall_not_mem.mpr fun a listed => ?_
    obtain ⟨node, present, able, -⟩ := Rest.mem_addresses.mp listed
    rw [unable node present] at able
    cases able

/-- Of the grown working set, narrowing leaves the addresses of the role. -/
theorem mem_grown_retained {r : Roster} {role : Role} {a : String} :
    a ∈ (r.extend (Node.addresses nodes .any)).retained (Node.addresses nodes role) ↔
      a ∈ Node.addresses nodes role := by
  rw [Roster.retained, List.mem_filter, decide_eq_true_iff]
  exact ⟨fun both => both.2, fun listed => ⟨mem_grown listed, listed⟩⟩

theorem grown_retained_eq_nil {r : Roster} {role : Role} :
    (r.extend (Node.addresses nodes .any)).retained (Node.addresses nodes role) = [] ↔
      Node.addresses nodes role = [] := by
  rw [List.eq_nil_iff_forall_not_mem, List.eq_nil_iff_forall_not_mem]
  exact forall_congr' fun a => not_congr mem_grown_retained

theorem nodup_grown_retained (r : Roster) (found listed : List String) :
    ((r.extend found).retained listed).Nodup :=
  Roster.nodup_retained (r.nodup_extend found) listed

/-- Those that were in the working set come first, in their order. -/
theorem front_grown_retained (r : Roster) (found listed : List String) :
    (r.workingSet.filter (· ∈ listed)).eraseDups <+: (r.extend found).retained listed := by
  rw [Roster.retained, Roster.extend, List.eraseDups_append, List.filter_append, filter_eraseDups]
  exact List.prefix_append _ _

/-! ## Answers -/

theorem firstAnswer_described (described : Describes client (newCall scene) nodes) (role : Role) :
    ∃ session world, firstAnswer (Rest.channel client) (.nodes role) scene =
      (.ok (Node.addresses nodes role), session, world) := by
  have told : (firstAnswer (Rest.channel client) (.nodes role) scene).1 =
      .ok (Node.addresses nodes role) := Rest.addressesOf_described rfl described role
  rcases answer : firstAnswer (Rest.channel client) (.nodes role) scene with
    ⟨outcome, session, world⟩
  rw [answer] at told
  cases told
  exact ⟨session, world, rfl⟩

/-- Growth where the nodes are described. -/
theorem extendNodes_described (on : scene.negotiation.roster.discoveryEnabled = true)
    (described : Describes client (newCall scene) nodes) :
    ∃ grown : Scene (Line ω),
      extendNodes (Rest.channel client) scene = (.ok (some (Node.addresses nodes .any)), grown) ∧
      grown.negotiation.roster = scene.negotiation.roster.extend (Node.addresses nodes .any) := by
  obtain ⟨session, world, answer⟩ := firstAnswer_described described .any
  exact ⟨_, extendNodes_answered on answer, rfl⟩

/-- Narrowing where the nodes are described. -/
theorem narrowNodes_described {role : Role}
    (restricted : scene.negotiation.roster.restriction = some role) (proper : role ≠ .any)
    (described : Describes client (newCall scene) nodes) :
    let r := scene.negotiation.roster
    let left := r.retained (Node.addresses nodes role)
    (left = [] → (narrowNodes (Rest.channel client) scene).1 =
        .error (.shortage ⟨role, Node.addresses nodes role, r.workingSet, r.discoveryEnabled⟩) ∧
      (narrowNodes (Rest.channel client) scene).2.negotiation.roster = r) ∧
    (left ≠ [] → (narrowNodes (Rest.channel client) scene).1 = .ok () ∧
      (narrowNodes (Rest.channel client) scene).2.negotiation.roster.workingSet = left) := by
  intro r left
  obtain ⟨session, world, answer⟩ := firstAnswer_described described role
  refine ⟨fun empty => ?_, fun nonempty => ?_⟩
  · have short : r.narrow role (Node.addresses nodes role) = .error _ :=
      Roster.narrow_eq_error.mpr ⟨empty, rfl⟩
    rw [narrowNodes_short restricted proper answer short]
    exact ⟨rfl, rfl⟩
  · have narrowed : r.narrow role (Node.addresses nodes role) = .ok _ :=
      Roster.narrow_eq_ok.mpr ⟨nonempty, rfl⟩
    rw [narrowNodes_narrowed restricted proper answer narrowed]
    exact ⟨rfl, rfl⟩

/-! ## The two outcomes -/

/-- Whatever the working set is, growth followed by narrowing has two outcomes on a cluster that
describes the same nodes to both. If none of them can play the role, that is all that is told; and
otherwise the working set holds the addresses of those that can, every one once, and first the ones
that it held before in the order in which it held them. That nodes were found and are gone again is
never told. -/
theorem discovery_then_narrowing {s : Settings} {n : Negotiation}
    (made : Negotiation.ofSettings s = .ok n) (on : n.roster.discoveryEnabled = true) {role : Role}
    (restricted : n.roster.restriction = some role) (client : Http.Client ω) (scene : Scene (Line ω))
    {workingSet : List String}
    (roster : scene.negotiation.roster = { n.roster with workingSet := workingSet })
    {nodes : List Node} (discovery : Describes client (newCall scene) nodes)
    (narrowing : Describes client (newCall (extendNodes (Rest.channel client) scene).2) nodes) :
    let taken :=
      (do let _ ← extendNodes (Rest.channel client); narrowNodes (Rest.channel client)) scene
    let left := taken.2.negotiation.roster.workingSet
    ((∀ node ∈ nodes, node.satisfies role = false) →
      taken.1 = .error (.shortage ⟨role, [], left, true⟩)) ∧
    ((∃ node ∈ nodes, node.satisfies role = true) →
      taken.1 = .ok () ∧ left.Nodup ∧
        (∀ a, a ∈ left ↔ ∃ node ∈ nodes, node.satisfies role = true ∧ node.address = a) ∧
        (workingSet.filter (· ∈ left)).eraseDups <+: left) ∧
    ∀ shortage, taken.1 = .error (.shortage shortage) → shortage.message = role.noNodes := by
  intro taken left
  have proper : role ≠ .any := by
    rintro rfl
    exact restriction_proper made restricted
  have onNow : scene.negotiation.roster.discoveryEnabled = true := by rw [roster, on]
  obtain ⟨grown, grew, grownRoster⟩ := extendNodes_described onNow discovery
  have restrictedNow : grown.negotiation.roster.restriction = some role := by
    rw [grownRoster]
    dsimp only [Roster.extend]
    rw [roster, restricted]
  rw [grew] at narrowing
  have followed : taken = narrowNodes (Rest.channel client) grown := Attempt.bind_of_ok grew
  obtain ⟨short, enough⟩ := narrowNodes_described restrictedNow proper narrowing
  rw [← followed, grownRoster] at short enough
  -- All listed addresses have been added by growth: none is left only if none is listed.
  have nothing : (scene.negotiation.roster.extend _).retained (Node.addresses nodes role) = [] ↔
      ∀ node ∈ nodes, node.satisfies role = false :=
    grown_retained_eq_nil.trans addresses_eq_nil
  by_cases unable : ∀ node ∈ nodes, node.satisfies role = false
  · obtain ⟨failed, kept⟩ := short (nothing.mpr unable)
    have grownSet : left = _ := congrArg Roster.workingSet kept
    have told : taken.1 = .error (.shortage ⟨role, [], left, true⟩) := by
      rw [failed, addresses_eq_nil.mpr unable, grownSet, ← onNow]
      rfl
    refine ⟨fun _ => told, fun ⟨node, present, able⟩ => ?_, fun shortage raised => ?_⟩
    · rw [unable node present] at able
      cases able
    · rw [told] at raised
      cases raised
      rfl
  · obtain ⟨succeeded, remaining⟩ := enough fun empty => unable (nothing.mp empty)
    change left = _ at remaining
    have members : ∀ a, a ∈ left ↔ a ∈ Node.addresses nodes role := by
      intro a
      rw [remaining]
      exact mem_grown_retained
    refine ⟨fun none => absurd none unable, fun _ => ⟨succeeded, ?_, fun a => ?_, ?_⟩,
      fun shortage raised => ?_⟩
    · rw [remaining]
      exact nodup_grown_retained _ _ _
    · exact (members a).trans Rest.mem_addresses
    · simp only [members]
      have front := front_grown_retained scene.negotiation.roster (Node.addresses nodes .any)
        (Node.addresses nodes role)
      rw [← remaining, roster] at front
      exact front
    · rw [succeeded] at raised
      cases raised

/-- Two nodes share an address, and only the second of them can play the role: the addresses of the
role come in another order than all addresses, and the working set keeps its own. -/
theorem narrowing_of_shared_address :
    let client := Http.Script.wire
    let cluster := answering
      ("\x7b\"nodes\": \x7b" ++
        "\"1\": \x7b\"http\": \x7b\"publish_address\": \"b:9200\"\x7d, \"roles\": []\x7d, " ++
        "\"2\": \x7b\"http\": \x7b\"publish_address\": \"a:9200\"\x7d\x7d, " ++
        "\"3\": \x7b\"http\": \x7b\"publish_address\": \"b:9200\"\x7d\x7d\x7d\x7d")
    let nodes : List Node :=
      [⟨"1", "1", "b:9200", []⟩, ⟨"2", "2", "a:9200", ["master", "data"]⟩,
        ⟨"3", "3", "b:9200", ["master", "data"]⟩]
    let n : Negotiation := ⟨⟨["localhost:9200"], true, some .data⟩, none⟩
    let scene : Scene (Line Http.Script) :=
      ⟨⟨{}, cluster, {}⟩, ⟨{ n.roster with workingSet := ["old:9200", "b:9200"] }, none⟩⟩
    let taken :=
      (do let _ ← extendNodes (Rest.channel client); narrowNodes (Rest.channel client)) scene
    Negotiation.ofSettings {} = .ok n ∧ Describes client (newCall scene) nodes ∧
      Describes client (newCall (extendNodes (Rest.channel client) scene).2) nodes ∧
      Node.addresses nodes .data = ["a:9200", "b:9200"] ∧
      taken.2.negotiation.roster.workingSet = ["b:9200", "a:9200"] ∧ taken.1 = .ok () := by
  intro client cluster nodes n scene taken
  have discovery : Describes client (newCall scene) nodes :=
    Rest.describes_iff.mpr (by decide +kernel)
  have narrowing : Describes client (newCall (extendNodes (Rest.channel client) scene).2) nodes :=
    Rest.describes_iff.mpr (by decide +kernel)
  obtain ⟨-, enough, -⟩ :=
    discovery_then_narrowing (s := {}) (n := n) rfl rfl rfl client scene rfl discovery narrowing
  exact ⟨rfl, discovery, narrowing, by decide, by decide +kernel, (enough (by decide)).1⟩

end Clearance.Negotiation
