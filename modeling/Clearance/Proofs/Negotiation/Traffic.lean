import Clearance.Http.Script
import Clearance.Proofs.Negotiation.Course
import Clearance.Proofs.Negotiation.Histories
import Clearance.Proofs.Negotiation.Invariants
import Clearance.Proofs.Negotiation.Sessions
import Clearance.Proofs.Rest.Traffic

/-!
# No request leaves the nodes

Over REST every request of a negotiation goes to a node that was in the working set when its session
was opened, and every node comes into the working set by declaration or by discovery. So a
negotiation that does not discover nodes stays with the declared ones, and one that has narrowed its
nodes to a role stays with those that the cluster listed for it.

Results:
1. `live_attended`: the visits of a history, and how they lead the roster.
2. `settle_listed`: where a whole negotiation goes after its nodes were narrowed.
3. `Accounted`, `Confined`: visits with all requests, and where these may go.
4. `traffic_confined`: the requests of every history, and those of a whole negotiation.
-/

namespace Clearance.Negotiation

open Cluster (Channel Exchange Visit)
open Http (Client)
open Rest (GoesTo Line Outing Outings)
open Roster (Led)

variable {σ ω : Type} {ch : Channel σ ω} {scene : Scene ω}

/-! ## Visits -/

theorem live_attended (ch : Channel σ ω) (history : List Turn) (scene : Scene ω) :
    ∃ visits, Attended ch scene.desk visits (live ch history scene).desk ∧
      Led scene.negotiation.roster visits (live ch history scene).negotiation.roster := by
  induction history generalizing scene with
  | nil => exact ⟨[], .none rfl rfl, .none⟩
  | cons turn rest ih =>
    cases turn with
    | step step =>
      obtain ⟨visits, toured, -⟩ := take_toured ch step scene
      obtain ⟨more, attended, led⟩ := ih (step.take ch scene).2
      exact ⟨visits ++ more, toured.attended.append attended, toured.led.append led⟩
    | assign change =>
      obtain ⟨visits, attended, led⟩ := ih (Turn.take ch (.assign change) scene)
      exact ⟨visits, ⟨attended.recorded, attended.sessions⟩, led⟩

/-- Once the cluster has listed nodes for a role, all later visits go to these. -/
def KeepsTo (role : Role) (visits : List Visit) : Prop :=
  visits.Pairwise fun earlier later =>
    ∀ listed, (⟨.nodes role, .ok listed⟩ : Exchange) ∈ earlier.exchanges →
      ∀ a ∈ later.nodes, a ∈ listed

/-- Visits in which the nodes of the role are not asked for. -/
theorem keepsTo_of_others {role : Role} {visits : List Visit}
    (others : ∀ e ∈ visits.flatMap Visit.exchanges, e.query ≠ .nodes role) :
    KeepsTo role visits := by
  refine List.pairwise_of_forall_mem_list fun earlier present _ _ listed told => ?_
  exact absurd rfl (others _ (List.mem_flatMap.mpr ⟨earlier, present, told⟩))

theorem KeepsTo.append {role : Role} {visits more : List Visit}
    (others : ∀ e ∈ visits.flatMap Visit.exchanges, e.query ≠ .nodes role)
    (later : KeepsTo role more) : KeepsTo role (visits ++ more) := by
  refine List.pairwise_append.mpr ⟨keepsTo_of_others others, later, ?_⟩
  intro earlier present _ _ listed told
  exact absurd rfl (others _ (List.mem_flatMap.mpr ⟨earlier, present, told⟩))

/-- After the nodes were narrowed, the version is asked for at nodes that the cluster listed. -/
theorem narrowing_listed (ch : Channel σ ω) {role : Role}
    (restricted : scene.negotiation.roster.restriction = some role) (proper : role ≠ .any) :
    ∃ visits, Toured ch Step.settle.Topic scene visits
        ((takeAll ch [.narrowNodes, .findVersion] >>= fun _ => conclude) scene) ∧
      KeepsTo role visits := by
  obtain ⟨outcome, asked, kept⟩ := narrowNodes_asked ch restricted proper
  have onTopic : ∀ {query : Cluster.Query}, query = .nodes role → Step.settle.Topic query :=
    fun same => .inr (.inl ⟨role, same⟩)
  have taken : Step.narrowNodes.take ch scene = _ :=
    Attempt.bind_pure_apply (narrowNodes ch) (fun _ => Reply.done) scene
  rcases narrowed : narrowNodes ch scene with ⟨fault | u, after⟩
  · rw [narrowed] at asked taken
    rw [Attempt.bind_of_error (takeAll_of_error taken)]
    exact ⟨_, (asked.widen onTopic).ofError, List.pairwise_singleton _ _⟩
  · rw [narrowed] at asked taken kept
    have goesOn : (takeAll ch [.narrowNodes, .findVersion] >>= fun _ => conclude) scene =
        (takeAll ch [.findVersion] >>= fun _ => conclude) after := by
      rw [Attempt.bind_apply, takeAll_of_ok taken, ← Attempt.bind_apply]
    have singles : ∀ step ∈ [Step.findVersion], step ≠ .settle := by simp
    obtain ⟨visits, found⟩ := takeAll_toured ch singles after
    obtain ⟨more, later⟩ : ∃ more,
        Toured ch (fun query => ∃ step ∈ [.findVersion], Step.Topic step query) after more
          ((takeAll ch [.findVersion] >>= fun _ => conclude) after) :=
      found.bind fun {_ last} _ => ⟨[], conclude_toured last⟩
    have version : ∀ e ∈ more.flatMap Visit.exchanges, e.query = .version := fun e present => by
      obtain ⟨step, phase, about⟩ := later.onTopic e present
      cases List.mem_singleton.mp phase
      exact about
    have others : ∀ e ∈ more.flatMap Visit.exchanges, ∀ role, e.query ≠ .nodes role := by
      intro e present role same
      cases same.symm.trans (version e present)
    have concluded : Toured ch Step.settle.Topic after more _ :=
      later.widen fun ⟨step, phase, about⟩ => by
        cases List.mem_singleton.mp phase
        exact .inr (.inr about)
    rw [goesOn]
    refine ⟨_, (asked.widen onTopic).append concluded, List.pairwise_cons.mpr ⟨?_, ?_⟩⟩
    · intro visit present listed told a there
      cases List.mem_singleton.mp told
      rw [later.led.unmoved others visit present] at there
      exact kept rfl listed rfl a there
    · exact keepsTo_of_others fun e present => others e present role

theorem settle_listed (ch : Channel σ ω) {role : Role}
    (restricted : scene.negotiation.roster.restriction = some role) (proper : role ≠ .any) :
    ∃ visits, Toured ch Step.settle.Topic scene visits (settle ch scene) ∧
      KeepsTo role visits := by
  have shape : phases scene.desk.settings =
      (checks scene.desk.settings ++ [.extendNodes]) ++ [.narrowNodes, .findVersion] := by
    simp [phases_eq]
  have phase : ∀ step ∈ checks scene.desk.settings ++ [.extendNodes],
      step ∈ phases scene.desk.settings := fun step present => by
    rw [shape]
    exact List.mem_append_left _ present
  obtain ⟨visits, toured⟩ :=
    takeAll_toured ch (fun step present => phases_single (phase step present)) scene
  have others : ∀ e ∈ visits.flatMap Visit.exchanges, e.query ≠ .nodes role := by
    intro e present same
    obtain ⟨step, early, about⟩ := toured.onTopic e present
    rw [same] at about
    rcases List.mem_append.mp early with check | growth
    · rcases mem_checks check with rfl | rfl
      · exact about
      · cases about
    · cases List.mem_singleton.mp growth
      exact proper (Cluster.Query.nodes.inj about)
  have settled : Toured ch Step.settle.Topic scene visits _ :=
    toured.widen fun ⟨step, early, about⟩ => topic_of_phase (phase step early) about
  rw [settle_eq, shape, takeAll_append]
  rcases early : takeAll ch (checks scene.desk.settings ++ [.extendNodes]) scene
    with ⟨fault | u, between⟩
  · rw [early] at settled
    rw [Attempt.bind_of_error (Attempt.bind_of_error early)]
    exact ⟨visits, settled.ofError, keepsTo_of_others others⟩
  · rw [early] at settled
    have goesOn : (takeAll ch (checks scene.desk.settings ++ [.extendNodes]) >>= fun _ =>
        takeAll ch [.narrowNodes, .findVersion]) scene = _ := Attempt.bind_of_ok early
    obtain ⟨more, later, keeps⟩ :=
      narrowing_listed ch (settled.led.restriction.trans restricted) proper
    rw [Attempt.bind_apply, goesOn, ← Attempt.bind_apply]
    exact ⟨visits ++ more, settled.append later, keeps.append others⟩

/-! ## Requests -/

variable {client : Client ω} {before after : Scene (Line ω)} {outings : List Outing}

/-- The outings account for all that happened between the two scenes: for what the journal recorded,
for every request that was sent, and for what became of the roster. -/
structure Accounted (client : Client ω) (before : Scene (Line ω)) (outings : List Outing)
    (after : Scene (Line ω)) : Prop where
  recorded : after.desk.journal.events =
    before.desk.journal.events ++ (outings.map Outing.visit).flatMap Visit.events
  sent : after.desk.world.sent = before.desk.world.sent ++ outings.flatMap Outing.sent
  made : Outings client before.desk.world.world outings after.desk.world.world
  led : Led before.negotiation.roster (outings.map Outing.visit) after.negotiation.roster

theorem accounted_of_attended {visits : List Visit}
    (attended : Attended (Rest.channel client) before.desk visits after.desk)
    (led : Led before.negotiation.roster visits after.negotiation.roster) :
    ∃ outings, outings.map Outing.visit = visits ∧ Accounted client before outings after := by
  obtain ⟨outings, rfl, made, sent⟩ := Rest.outings_of_sessions attended.sessions
  exact ⟨outings, rfl, attended.recorded, sent, made, led⟩

/-- The address was declared, or published in an answer to one of the outings that asked for the
nodes of any role. -/
def Known (declared : List String) (outings : List Outing) (a : String) : Prop :=
  a ∈ declared ∨ ∃ outing ∈ outings, ∃ found,
    (⟨.nodes .any, .ok found⟩ : Exchange) ∈ outing.visit.exchanges ∧
      outing.Publishes .any found ∧ a ∈ found

/-- The requests of the outings stay with the nodes. -/
structure Confined (declared : List String) (discovery : Bool) (outings : List Outing)
    (now : Roster) : Prop where
  /-- They go to nodes that were in the working set when the session was opened. -/
  requests : ∀ outing ∈ outings, ∀ request ∈ outing.sent,
    ∃ node ∈ outing.visit.nodes, GoesTo request node
  /-- The working set has known addresses only, whenever a session is opened and in the end. -/
  known : ∀ {early late : List Outing} {outing : Outing}, outings = early ++ outing :: late →
    ∀ a ∈ outing.visit.nodes, Known declared early a
  last : ∀ a ∈ now.workingSet, Known declared outings a
  /-- Without discovery they go to declared nodes. -/
  undiscovered : discovery = false → ∀ outing ∈ outings, ∀ request ∈ outing.sent,
    ∃ node ∈ declared, GoesTo request node

theorem Accounted.known (accounted : Accounted client before outings after) {early : List Outing}
    (part : ∀ outing ∈ early, outing ∈ outings) {now : Roster}
    (led : Led before.negotiation.roster (early.map Outing.visit) now) {a : String}
    (present : a ∈ now.workingSet) :
    Known before.negotiation.roster.workingSet early a := by
  refine (led.source present).imp_right ?_
  rintro ⟨visit, made, nodes, told, listed⟩
  obtain ⟨outing, there, rfl⟩ := List.mem_map.mp made
  exact ⟨outing, there, nodes, told, accounted.made.published (part outing there) told, listed⟩

/-- An outing goes to the working set that the outings before it led to. -/
theorem Accounted.opened {early late : List Outing} {outing : Outing}
    (accounted : Accounted client before (early ++ outing :: late) after) :
    ∃ now, Led before.negotiation.roster (early.map Outing.visit) now ∧
      outing.visit.nodes = now.workingSet := by
  have led := accounted.led
  rw [List.map_append, List.map_cons] at led
  obtain ⟨now, first, later⟩ := led.split
  refine ⟨now, first, ?_⟩
  generalize outing.visit = visit at later
  cases later
  rfl

theorem Accounted.confined (accounted : Accounted client before outings after) :
    Confined before.negotiation.roster.workingSet before.negotiation.roster.discoveryEnabled outings
      after.negotiation.roster where
  requests outing present request sent := accounted.made.sent_to_node present sent
  known {early late outing} split a present := by
    subst split
    obtain ⟨now, led, same⟩ := accounted.opened
    rw [same] at present
    exact accounted.known (fun _ there => List.mem_append_left _ there) led present
  last a present := accounted.known (fun _ there => there) accounted.led present
  undiscovered off outing present request sent := by
    obtain ⟨node, there, goes⟩ := accounted.made.sent_to_node present sent
    obtain ⟨early, late, rfl⟩ := List.append_of_mem present
    obtain ⟨now, led, same⟩ := accounted.opened
    rw [same] at there
    exact ⟨node, led.declared off there, goes⟩

/-- Once the cluster has listed nodes for a role, all later requests go to these. -/
def StaysWith (role : Role) (outings : List Outing) : Prop :=
  outings.Pairwise fun earlier later =>
    ∀ listed, (⟨.nodes role, .ok listed⟩ : Exchange) ∈ earlier.visit.exchanges →
      ∀ request ∈ later.sent, ∃ node ∈ listed, GoesTo request node

theorem Accounted.staysWith (accounted : Accounted client before outings after) {role : Role}
    (keeps : KeepsTo role (outings.map Outing.visit)) : StaysWith role outings := by
  refine (List.pairwise_map.mp keeps).imp_of_mem fun _ present kept listed told request sent => ?_
  obtain ⟨node, there, goes⟩ := accounted.made.sent_to_node present sent
  exact ⟨node, kept listed told node there, goes⟩

theorem declaredNodes_distinct {s : Settings} {declared : List String}
    (given : s.declaredNodes = .ok declared) : declared.eraseDups = declared := by
  rw [Settings.declaredNodes] at given
  cases read : s.nodes.mapM (Settings.Address.qualify · s.port) with
  | error fault =>
    rw [read] at given
    cases given
  | ok addresses =>
    rw [read] at given
    cases given
    exact eraseDups_of_nodup (nodup_eraseDups addresses)

/-- At any time in the life of a negotiation over REST, whatever the nodes answer: the requests so
far went to nodes of the working set, whose addresses were declared or had been published by the
cluster before, and without discovery they went to declared nodes. A whole negotiation that begins
now and has narrowed its nodes to a role goes on with those that the cluster listed for it. -/
theorem traffic_confined {s : Settings} {n : Negotiation}
    (made : Negotiation.ofSettings s = .ok n) (client : Client ω) (line : Line ω)
    (journal : Cluster.Journal) (history : List Turn) :
    let ch := Rest.channel client
    let first : Scene (Line ω) := ⟨⟨s, line, journal⟩, n⟩
    let now := live ch history first
    ∃ declared, s.declaredNodes = .ok declared ∧
      (∃ outings, Accounted client first outings now ∧
        Confined declared s.discoveryEnabled outings now.negotiation.roster) ∧
      ∃ outings, Accounted client now outings (settle ch now).2 ∧
        ∀ role, s.restriction = some role → StaysWith role outings := by
  intro ch first now
  obtain ⟨declared, given, rfl⟩ := eq_of_made made
  obtain ⟨visits, attended, led⟩ := live_attended ch history first
  refine ⟨declared, given, ?_, ?_⟩
  · obtain ⟨outings, -, accounted⟩ := accounted_of_attended attended led
    have declaration : first.negotiation.roster.workingSet = declared :=
      declaredNodes_distinct given
    have confined := accounted.confined
    rw [declaration] at confined
    exact ⟨outings, accounted, confined⟩
  · have options : now.negotiation.roster.restriction = s.restriction := led.restriction
    cases restricted : s.restriction with
    | none =>
      obtain ⟨visits, toured⟩ := settle_toured ch now
      obtain ⟨outings, -, accounted⟩ := accounted_of_attended toured.attended toured.led
      exact ⟨outings, accounted, nofun⟩
    | some role =>
      have proper : role ≠ .any := by
        rintro rfl
        exact restriction_proper made restricted
      obtain ⟨visits, toured, keeps⟩ := settle_listed ch (options.trans restricted) proper
      obtain ⟨outings, rfl, accounted⟩ := accounted_of_attended toured.attended toured.led
      refine ⟨outings, accounted, fun _ same => ?_⟩
      cases same
      exact accounted.staysWith keeps

/-- A cluster of three nodes, of which two have data. All of them are discovered and the one without
data is dropped; the version is asked for at the two others, as the first one does not tell it. -/
theorem traffic_after_narrowing :
    let client := Http.Script.wire
    let nodes :=
      "\x7b\"nodes\": \x7b" ++
        "\"1\": \x7b\"http\": \x7b\"publish_address\": \"c:9200\"\x7d, \"roles\": []\x7d, " ++
        "\"2\": \x7b\"http\": \x7b\"publish_address\": \"b:9200\"\x7d\x7d, " ++
        "\"3\": \x7b\"http\": \x7b\"publish_address\": \"a:9200\"\x7d\x7d\x7d\x7d"
    let version := "\x7b\"version\": \x7b\"number\": \"8.1.0\"\x7d\x7d"
    let script : Http.Script :=
      [{ node := some "a:9200", path := some "/", reply := .error (.client "ReadError" "down") },
        { path := some "/", reply := .ok ⟨200, version.toUTF8.data.toList⟩ },
        { path := some "/_nodes/http", reply := .ok ⟨200, nodes.toUTF8.data.toList⟩ }]
    let s : Settings := { nodes := ["a:9200"] }
    let n : Negotiation := ⟨⟨["a:9200"], true, some .data⟩, none⟩
    let now := live (Rest.channel client) [.step .extendNodes] ⟨⟨s, ⟨script, []⟩, {}⟩, n⟩
    let last := (settle (Rest.channel client) now).2
    Negotiation.ofSettings s = .ok n ∧
      now.negotiation.roster.workingSet = ["a:9200", "c:9200", "b:9200"] ∧
      last.negotiation.roster.workingSet = ["a:9200", "b:9200"] ∧
      last.desk.world.sent.map Http.Request.url =
        ["http://a:9200/_nodes/http", "http://a:9200/_nodes/http", "http://a:9200/_nodes/http",
          "http://a:9200/", "http://b:9200/"] ∧
      ∃ outings, Accounted client now outings last ∧ StaysWith .data outings := by
  intro client nodes version script s n now last
  have made : Negotiation.ofSettings s = .ok n := rfl
  obtain ⟨declared, -, -, outings, accounted, stays⟩ :=
    traffic_confined made client ⟨script, []⟩ {} [.step .extendNodes]
  exact ⟨made, by decide +kernel, by decide +kernel, by decide +kernel, outings, accounted,
    stays .data rfl⟩

end Clearance.Negotiation
