import Clearance.Fault.Message
import Clearance.Http.Script
import Clearance.Proofs.Negotiation.Steps
import Clearance.Proofs.Rest.Failover

/-!
# Narrowing by roles

One answer of the cluster settles what narrowing to a role comes to. It is told here in full: the
outcome, and the words that go with it if it is a fault. A roster that cannot be narrowed stays as
it is.

Where the cluster goes on listing the same nodes, narrowing to some roles one after the other leaves
the nodes that are listed for all of them. A run through the roles fails if it would leave none, and
fails no matter where, so it depends on which roles there are and not on their order or number.

Results:
1. `Restricted`, `Restricted.total`, `Restricted.outcome`: what narrowing to a role comes to.
2. `restriction_by_answer`: this is all that it does, and a negotiation keeps its roster otherwise.
3. `Lists`, `lists_known`: clusters that go on listing the same nodes; one is a session over REST
   that knows them.
4. `restrictToAll_eq_ok`: narrowing to several roles.
5. `restriction_order`: runs through the same roles end in the same way.
-/

namespace Clearance.Roster

open Cluster (Channel Conversation heard)
open Negotiation (narrowNodes opened)
open Text (quoteList)

variable {σ ω : Type} {ch : Channel σ ω} {role : Role} {r : Roster}

/-! ## One role -/

/-- The words that go with an outcome. -/
def words {α : Type} : Except Fault α → Option String
  | .error fault => fault.message
  | .ok _ => none

/-- What narrowing a roster to a proper role comes to, by the answer of the cluster: the outcome,
and the words that go with it. -/
inductive Restricted (r : Roster) (role : Role) :
    Except Fault (List String) → Except Fault Roster → Option String → Prop
  /-- The cluster cannot be asked. This is a fault of the configuration and no shortage. -/
  | unreachable {reason : TransportFault} :
    Restricted r role (.error (.transport reason))
      (.error (.configuration (.unreachable (.listNodes role) reason)))
      (some ("Cannot list " ++ role.label ++ " nodes; the cluster is not accessible: " ++
        reason.message))
  /-- Any other fault is passed on. -/
  | failed {fault : Fault} (other : ∀ reason, fault ≠ .transport reason) :
    Restricted r role (.error fault) (.error fault) fault.message
  /-- The cluster lists no node. It does not matter whether discovery is on. -/
  | noneListed :
    Restricted r role (.ok []) (.error (.shortage ⟨role, [], r.workingSet, r.discoveryEnabled⟩))
      (some role.noNodes)
  /-- None of the nodes that the cluster lists is in the working set, which discovery extends: they
  must have gone, and are named. -/
  | removed {listed : List String} (given : listed ≠ []) (apart : ∀ a ∈ r.workingSet, a ∉ listed)
      (on : r.discoveryEnabled = true) :
    Restricted r role (.ok listed) (.error (.shortage ⟨role, listed, r.workingSet, true⟩))
      (some (role.noNodes ++
        s!"; looks like the {role.label} nodes discovered have been removed; " ++
        "is the cluster in a stable state? " ++ quoteList listed))
  /-- None of the nodes that the cluster lists is in the working set, which discovery does not
  extend: the nodes that were given do not fit, and are named. -/
  | unfit {listed : List String} (given : listed ≠ []) (apart : ∀ a ∈ r.workingSet, a ∉ listed)
      (off : r.discoveryEnabled = false) :
    Restricted r role (.ok listed) (.error (.shortage ⟨role, listed, r.workingSet, false⟩))
      (some (role.noNodes ++ "; node discovery is disabled and none of nodes specified fit the " ++
        "criterion " ++ quoteList r.workingSet))
  /-- Some of the nodes are in the working set. They are kept, in its order. -/
  | narrowed {listed : List String} (shared : ∃ a ∈ r.workingSet, a ∈ listed) :
    Restricted r role (.ok listed)
      (.ok { r with workingSet := r.workingSet.filter (· ∈ listed) }) none

theorem retained_eq_nil {listed : List String} :
    r.retained listed = [] ↔ ∀ a ∈ r.workingSet, a ∉ listed := by
  rw [retained, List.filter_eq_nil_iff]
  simp only [decide_eq_true_eq]

theorem retained_ne_nil {listed : List String} :
    r.retained listed ≠ [] ↔ ∃ a ∈ r.workingSet, a ∈ listed := by
  rw [Ne, retained_eq_nil]
  constructor
  · intro shared
    refine Classical.byContradiction fun none => ?_
    exact shared fun a present both => none ⟨a, present, both⟩
  · rintro ⟨a, present, both⟩ apart
    exact apart a present both

theorem narrow_apart {listed : List String} (apart : ∀ a ∈ r.workingSet, a ∉ listed) :
    r.narrow role listed = .error ⟨role, listed, r.workingSet, r.discoveryEnabled⟩ :=
  narrow_eq_error.mpr ⟨retained_eq_nil.mpr apart, rfl⟩

theorem message_unreachable (role : Role) (reason : TransportFault) :
    (Fault.configuration (.unreachable (.listNodes role) reason)).message =
      some ("Cannot list " ++ role.label ++ " nodes; the cluster is not accessible: " ++
        reason.message) := by
  have spoken : (Fault.configuration (.unreachable (.listNodes role) reason)).message =
      some ("Cannot " ++ ("list " ++ role.label ++ " nodes") ++
        "; the cluster is not accessible: " ++ reason.message) := rfl
  have opening : "Cannot list " = "Cannot " ++ "list " := by decide
  have closing : " nodes; the cluster is not accessible: " =
      " nodes" ++ "; the cluster is not accessible: " := by decide
  rw [spoken, opening, closing]
  simp only [String.append_assoc]

theorem onErrand_other {fault : Fault} (other : ∀ reason, fault ≠ .transport reason)
    (errand : Errand) : fault.onErrand errand = fault := by
  cases fault with
  | transport reason => exact absurd rfl (other reason)
  | _ => rfl

/-- Every answer comes to something. -/
theorem Restricted.total (r : Roster) (role : Role) (answer : Except Fault (List String)) :
    ∃ told said, Restricted r role answer told said := by
  cases answer with
  | error fault =>
    by_cases way : ∃ reason, fault = .transport reason
    · obtain ⟨reason, rfl⟩ := way
      exact ⟨_, _, .unreachable⟩
    · exact ⟨_, _, .failed fun reason same => way ⟨reason, same⟩⟩
  | ok listed =>
    by_cases left : r.retained listed = []
    · have apart := retained_eq_nil.mp left
      by_cases empty : listed = []
      · subst empty
        exact ⟨_, _, .noneListed⟩
      · cases discovery : r.discoveryEnabled with
        | true => exact ⟨_, _, .removed empty apart discovery⟩
        | false => exact ⟨_, _, .unfit empty apart discovery⟩
    · exact ⟨_, _, .narrowed (retained_ne_nil.mp left)⟩

/-- It comes to nothing else. -/
theorem Restricted.outcome {answer : Except Fault (List String)} {told : Except Fault Roster}
    {said : Option String} (restricted : Restricted r role answer told said) (proper : role ≠ .any)
    {c : Conversation σ ω} {session : σ} {world : ω}
    (came : ch.answer (.nodes role) c.session c.world = (answer, session, world)) :
    (restrictTo ch role r c).1 = told ∧ words told = said := by
  cases restricted with
  | unreachable =>
    rw [restrictTo_failed proper r came]
    exact ⟨rfl, message_unreachable role _⟩
  | failed other =>
    rw [restrictTo_failed proper r came, onErrand_other other]
    exact ⟨rfl, rfl⟩
  | noneListed =>
    rw [restrictTo_answered proper r came, narrow_apart fun _ _ => List.not_mem_nil]
    exact ⟨rfl, rfl⟩
  | removed given apart on =>
    rw [restrictTo_answered proper r came, narrow_apart apart, on]
    refine ⟨rfl, ?_⟩
    rw [words, Fault.message, Shortage.message, if_neg given, if_pos rfl]
  | unfit given apart off =>
    rw [restrictTo_answered proper r came, narrow_apart apart, off]
    refine ⟨rfl, ?_⟩
    rw [words, Fault.message, Shortage.message, if_neg given, if_neg Bool.false_ne_true]
  | narrowed shared =>
    rw [restrictTo_answered proper r came, narrow_eq_ok.mpr ⟨retained_ne_nil.mpr shared, rfl⟩]
    exact ⟨rfl, rfl⟩

theorem restrictTo_restricted (proper : role ≠ .any) {answer : Except Fault (List String)}
    {c : Conversation σ ω} {session : σ} {world : ω}
    (came : ch.answer (.nodes role) c.session c.world = (answer, session, world)) :
    Restricted r role answer (restrictTo ch role r c).1 (words (restrictTo ch role r c).1) := by
  obtain ⟨told, said, restricted⟩ := Restricted.total r role answer
  obtain ⟨same, rfl⟩ := restricted.outcome proper came
  rw [same]
  exact restricted

theorem restrictTo_heard (proper : role ≠ .any) (r : Roster) {c : Conversation σ ω}
    {answer : Except Fault (List String)} {session : σ} {world : ω}
    (came : ch.answer (.nodes role) c.session c.world = (answer, session, world)) :
    ∃ outcome notes,
      restrictTo ch role r c = (outcome, heard c (.nodes role) answer notes session world) := by
  cases answer with
  | error fault => exact ⟨_, _, restrictTo_failed proper r came⟩
  | ok listed => exact ⟨_, _, restrictTo_answered proper r came⟩

theorem Restricted.succeeds {answer : Except Fault (List String)} {told : Except Fault Roster}
    {said : Option String} (restricted : Restricted r role answer told said) :
    (∃ u, told = .ok u) ↔ ∃ listed, answer = .ok listed ∧ ∃ a ∈ r.workingSet, a ∈ listed := by
  cases restricted with
  | unreachable | failed | noneListed => simp
  | removed given apart | unfit given apart => simpa using apart
  | narrowed shared => simpa using shared

/-- The roster of a negotiation is the narrowed one, or else the one that it was. -/
theorem narrowNodes_keeps {scene : Scene ω}
    (restricted : scene.negotiation.roster.restriction = some role) :
    (narrowNodes ch scene).1 =
        (restrictTo ch role scene.negotiation.roster (opened ch scene)).1.map (fun _ => ()) ∧
      (narrowNodes ch scene).2.negotiation =
        match (restrictTo ch role scene.negotiation.roster (opened ch scene)).1 with
        | .ok u => { scene.negotiation with roster := u }
        | .error _ => scene.negotiation := by
  rcases said : restrictTo ch role scene.negotiation.roster (opened ch scene) with
    ⟨fault | narrowed, c⟩
  · rw [Negotiation.narrowNodes_of_error restricted (Negotiation.inSession_of said)]
    exact ⟨rfl, rfl⟩
  · rw [Negotiation.narrowNodes_of_ok restricted (Negotiation.inSession_of said)]
    exact ⟨rfl, rfl⟩

/-- Narrowing to any role is refused without a question. Narrowing to another one asks one question,
and what comes of it is exactly what the answer says. It succeeds just where the working set shares
a node with the ones that are listed, and a negotiation in which it fails is left as it was. -/
theorem restriction_by_answer (ch : Channel σ ω) (role : Role) (r : Roster) :
    (∀ c, role = .any → restrictTo ch role r c = (.error (.value .anyRole), c)) ∧
    (∀ c, role ≠ .any → ∃ answer session world outcome notes,
      ch.answer (.nodes role) c.session c.world = (answer, session, world) ∧
      restrictTo ch role r c = (outcome, heard c (.nodes role) answer notes session world) ∧
      ∀ told said, Restricted r role answer told said ↔ outcome = told ∧ words outcome = said) ∧
    (∀ c, (∃ u, (restrictTo ch role r c).1 = .ok u) ↔
      role ≠ .any ∧ ∃ listed, (ch.answer (.nodes role) c.session c.world).1 = .ok listed ∧
        ∃ a ∈ r.workingSet, a ∈ listed) ∧
    ∀ scene : Scene ω, scene.negotiation.roster = r → r.restriction = some role →
      (narrowNodes ch scene).1 =
          (restrictTo ch role r (opened ch scene)).1.map (fun _ => ()) ∧
        (narrowNodes ch scene).2.negotiation =
          match (restrictTo ch role r (opened ch scene)).1 with
          | .ok u => { scene.negotiation with roster := u }
          | .error _ => scene.negotiation := by
  refine ⟨fun c any => ?_, fun c proper => ?_, fun c => ?_, fun scene same restricted => ?_⟩
  · rw [any]
    exact restrictTo_any r
  · rcases came : ch.answer (.nodes role) c.session c.world with ⟨answer, session, world⟩
    obtain ⟨outcome, notes, talk⟩ := restrictTo_heard proper r came
    have restricted : Restricted r role answer outcome (words outcome) := by
      have own := restrictTo_restricted (r := r) proper came
      rw [talk] at own
      exact own
    refine ⟨answer, session, world, outcome, notes, rfl, talk, fun told said => ⟨?_, ?_⟩⟩
    · intro other
      obtain ⟨same, spoken⟩ := other.outcome proper came
      rw [talk] at same
      exact ⟨same, by rw [← spoken, ← same]⟩
    · rintro ⟨rfl, rfl⟩
      exact restricted
  · by_cases any : role = .any
    · rw [any, restrictTo_any]
      refine ⟨?_, fun proper => absurd rfl proper.1⟩
      rintro ⟨_, same⟩
      cases same
    · rcases came : ch.answer (.nodes role) c.session c.world with ⟨answer, session, world⟩
      rw [(restrictTo_restricted any came).succeeds]
      exact ⟨fun shared => ⟨any, shared⟩, And.right⟩
  · subst same
    exact narrowNodes_keeps restricted

/-! ## Several roles -/

/-- As long as it is steady the cluster lists these nodes for each role, and it stays steady when it
is asked for them. -/
structure Lists (ch : Channel σ ω) (steady : σ → ω → Prop) (listed : Role → List String) :
    Prop where
  answer : ∀ {role : Role} {session : σ} {world : ω}, role ≠ .any → steady session world →
    ∃ next after, ch.answer (.nodes role) session world = (.ok (listed role), next, after) ∧
      steady next after

/-- A session that knows the nodes goes on listing them, whatever becomes of the cluster. -/
theorem lists_known (client : Http.Client ω) (described : List Rest.Node) :
    Lists (Rest.channel client) (fun session _ => session.known = some described)
      (Rest.Node.addresses described) where
  answer {role session line} _ known := by
    have known' : (Rest.Call.mk session line).session.known = some described := known
    exact ⟨session, line, Rest.answer_of_inquire (Rest.addressesOf_known known' role), known⟩

/-- Narrows the working set to the nodes of each of some roles, one after the other. -/
def restrictToAll (ch : Channel σ ω) (roles : List Role) (r : Roster) :
    Attempt (Conversation σ ω) Roster :=
  roles.foldlM (fun r role => restrictTo ch role r) r

/-- The nodes of the working set that are listed for all of some roles. -/
def common (r : Roster) (listed : Role → List String) (roles : List Role) : List String :=
  r.workingSet.filter fun a => ∀ role ∈ roles, a ∈ listed role

variable {steady : σ → ω → Prop} {listed : Role → List String} {roles others : List Role}

theorem common_nil : r.common listed [] = r.workingSet := by
  simp [common]

theorem common_cons :
    r.common listed (role :: roles) =
      ({ r with workingSet := r.retained (listed role) } : Roster).common listed roles := by
  rw [common, common, retained, List.filter_filter]
  refine List.filter_congr fun a _ => ?_
  simp [Bool.and_comm]

theorem mem_common {a : String} :
    a ∈ r.common listed roles ↔ a ∈ r.workingSet ∧ ∀ role ∈ roles, a ∈ listed role := by
  simp [common]

theorem common_alike (alike : ∀ role, role ∈ roles ↔ role ∈ others) :
    r.common listed roles = r.common listed others := by
  simp only [common, alike]

/-- A run through some roles leaves the nodes that are listed for all of them, and fails if there
are none. -/
theorem restrictToAll_eq_ok (lists : Lists ch steady listed) (proper : ∀ role ∈ roles, role ≠ .any)
    {c : Conversation σ ω} (begun : steady c.session c.world) {u : Roster} :
    (restrictToAll ch roles r c).1 = .ok u ↔
      (roles = [] ∨ r.common listed roles ≠ []) ∧
        u = { r with workingSet := r.common listed roles } := by
  induction roles generalizing r c with
  | nil =>
    rw [common_nil]
    constructor
    · intro same
      cases same
      exact ⟨.inl rfl, rfl⟩
    · rintro ⟨-, rfl⟩
      rfl
  | cons role rest ih =>
    obtain ⟨own, proper⟩ := List.forall_mem_cons.mp proper
    obtain ⟨next, after, answer, goesOn⟩ := lists.answer own begun
    have said := restrictTo_answered own r answer
    rw [restrictToAll, List.foldlM_cons, common_cons]
    cases left : r.narrow role (listed role) with
    | error shortage =>
      rw [left] at said
      obtain ⟨empty, -⟩ := narrow_eq_error.mp left
      rw [Attempt.bind_of_error said, empty]
      refine ⟨nofun, ?_⟩
      rintro ⟨none | left, -⟩
      · cases none
      · exact absurd (by simp [common]) left
    | ok first =>
      rw [left] at said
      obtain ⟨given, rfl⟩ := narrow_eq_ok.mp left
      rw [Attempt.bind_of_ok said]
      refine (ih proper goesOn).trans (and_congr_left fun _ => ?_)
      -- Where no role is left, what remains are the nodes that this one left.
      constructor
      · rintro (rfl | left)
        · exact .inr (by rw [common_nil]; exact given)
        · exact .inr left
      · rintro (none | left)
        · cases none
        · exact .inr left

theorem restrictToAll_succeeds (lists : Lists ch steady listed) (nonempty : roles ≠ [])
    (proper : ∀ role ∈ roles, role ≠ .any) {c : Conversation σ ω}
    (begun : steady c.session c.world) :
    (∃ u, (restrictToAll ch roles r c).1 = .ok u) ↔
      ∃ a ∈ r.workingSet, ∀ role ∈ roles, a ∈ listed role := by
  simp only [restrictToAll_eq_ok lists proper begun, nonempty, false_or]
  constructor
  · rintro ⟨_, left, -⟩
    obtain ⟨a, present⟩ := List.exists_mem_of_ne_nil _ left
    exact ⟨a, mem_common.mp present⟩
  · rintro ⟨a, within⟩
    exact ⟨_, List.ne_nil_of_mem (mem_common.mpr within), rfl⟩

/-- Two runs through the same roles, in any order and with any repetitions, end in the same way:
both fail, or both leave the nodes that are listed for all of the roles, in their order. -/
theorem restriction_order (lists : Lists ch steady listed) (nonempty : roles ≠ [])
    (proper : ∀ role ∈ roles, role ≠ .any) (alike : ∀ role, role ∈ roles ↔ role ∈ others)
    (r : Roster) {c d : Conversation σ ω} (begun : steady c.session c.world)
    (begun' : steady d.session d.world) :
    ((∃ u, (restrictToAll ch roles r c).1 = .ok u) ↔
        ∃ a ∈ r.workingSet, ∀ role ∈ roles, a ∈ listed role) ∧
      ((∃ u, (restrictToAll ch roles r c).1 = .ok u) ↔
        ∃ u, (restrictToAll ch others r d).1 = .ok u) ∧
      ∀ u v, (restrictToAll ch roles r c).1 = .ok u → (restrictToAll ch others r d).1 = .ok v →
        u = v ∧ u = { r with workingSet :=
          r.workingSet.filter fun a => ∀ role ∈ roles, a ∈ listed role } := by
  have nonempty' : others ≠ [] := by
    rintro rfl
    obtain ⟨role, present⟩ := List.exists_mem_of_ne_nil _ nonempty
    cases (alike role).mp present
  have proper' : ∀ role ∈ others, role ≠ .any := fun role present =>
    proper role ((alike role).mpr present)
  have first := restrictToAll_succeeds (r := r) lists nonempty proper begun
  have second := restrictToAll_succeeds (r := r) lists nonempty' proper' begun'
  refine ⟨first, ?_, fun u v left left' => ?_⟩
  · rw [first, second]
    simp only [alike]
  · obtain ⟨-, rfl⟩ := (restrictToAll_eq_ok lists proper begun).mp left
    obtain ⟨-, rfl⟩ := (restrictToAll_eq_ok lists proper' begun').mp left'
    exact ⟨by rw [common_alike alike], rfl⟩

/-- Two nodes with data, of which one runs pipelines. -/
def twoNodes : List Rest.Node :=
  [⟨"1", "one", "a:9200", ["data", "ingest"]⟩, ⟨"2", "two", "b:9200", ["data"]⟩]

/-- It does not matter that the session of the second run is closed. -/
theorem data_and_ingest_in_any_order :
    let ch := Rest.channel Http.Script.wire
    let r : Roster := { workingSet := ["c:9200", "b:9200", "a:9200"] }
    let c : Conversation Rest.Session (Rest.Line Http.Script) :=
      { session := { nodes := ["a:9200"], known := twoNodes }, world := ⟨[], []⟩ }
    let d := ch.close c
    (restrictToAll ch [.data, .ingest] r c).1 = .ok { workingSet := ["a:9200"] } ∧
      (restrictToAll ch [.ingest, .data, .ingest] r d).1 = .ok { workingSet := ["a:9200"] } := by
  intro ch r c d
  have alike : ∀ role, role ∈ [Role.data, .ingest] ↔ role ∈ [Role.ingest, .data, .ingest] := by
    intro role
    cases role <;> decide
  obtain ⟨succeeds, both, same⟩ :=
    restriction_order (lists_known Http.Script.wire twoNodes) (List.cons_ne_nil _ _)
      (by decide : ∀ role ∈ [Role.data, .ingest], role ≠ .any) alike r
      (show c.session.known = twoNodes from rfl) (show d.session.known = twoNodes from rfl)
  obtain ⟨u, left⟩ := succeeds.mpr ⟨"a:9200", by decide, by decide⟩
  obtain ⟨v, left'⟩ := both.mp ⟨u, left⟩
  obtain ⟨rfl, kept⟩ := same u v left left'
  have one : u = { workingSet := ["a:9200"] } := kept.trans (by decide)
  rw [← one]
  exact ⟨left, left'⟩

end Clearance.Roster
