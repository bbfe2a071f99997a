import Clearance.Http.Script
import Clearance.Proofs.Negotiation.Invariants
import Clearance.Proofs.Rest.Session
import Clearance.Rest.Channel

/-!
# Negotiating over REST

Over REST the first question of a session for nodes is answered from the descriptions that the
cluster sends. Faults on the way are told as faults of the configuration, but a description that
cannot be read comes through as it is, and so does anything that the client raises besides its own
errors.

Results:
1. `extendNodes_fst`, `narrowNodes_fst`: the outcome of growth and narrowing, by the answer.
2. `faults_of_addresses`, `faults_of_growth`, `faults_of_narrowing`: which faults asking for nodes
   has, alone and within a negotiation, and exactly when one of them is a fault of shape.
3. `faults_over_rest`: these faults, after any steps of a negotiation.
-/

namespace Clearance.Negotiation

open Cluster (Channel)
open Rest (Call Foreign Line Misshapen OfTransport addressesOf)

/-! ## Outcomes -/

section Outcomes

variable {σ ω : Type} {ch : Channel σ ω} {scene : Scene ω}

theorem extendNodes_fst (on : scene.negotiation.roster.discoveryEnabled = true) :
    (extendNodes ch scene).1 =
      ((firstAnswer ch (.nodes .any) scene).1.mapError (·.onErrand .extendNodes)).bind
        fun found => .ok (some found) := by
  rcases answer : firstAnswer ch (.nodes .any) scene with ⟨fault | found, session, world⟩
  · rw [extendNodes_failed on answer]
    rfl
  · rw [extendNodes_answered on answer]
    rfl

theorem narrowNodes_fst {role : Role}
    (restricted : scene.negotiation.roster.restriction = some role) (proper : role ≠ .any) :
    (narrowNodes ch scene).1 =
      ((firstAnswer ch (.nodes role) scene).1.mapError (·.onErrand (.listNodes role))).bind
        fun listed =>
          ((scene.negotiation.roster.narrow role listed).mapError .shortage).map fun _ => () := by
  rcases answer : firstAnswer ch (.nodes role) scene with ⟨fault | listed, session, world⟩
  · rw [narrowNodes_failed restricted proper answer]
    rfl
  · show _ = ((scene.negotiation.roster.narrow role listed).mapError Fault.shortage).map _
    cases left : scene.negotiation.roster.narrow role listed with
    | error shortage =>
      rw [narrowNodes_short restricted proper answer left]
      rfl
    | ok narrowed =>
      rw [narrowNodes_narrowed restricted proper answer left]
      rfl

end Outcomes

/-! ## Faults -/

/-- The faults of an outcome are its own, or faults of shape; and it is known exactly when there is
one of shape. -/
structure Faults {α : Type} (outcome : Except Fault α) (own : Fault → Prop)
    (shape : ShapeFault → Prop) : Prop where
  told : ∀ {fault}, outcome = .error fault → own fault ∨ ∃ f, fault = .shape f
  shape_iff : ∀ f, outcome = .error (.shape f) ↔ shape f

variable {ω : Type} {client : Http.Client ω} {closed : Bool}

/-- The fault is one of transport, or one that the client raises. -/
def OnTheWay (client : Http.Client ω) (closed : Bool) (fault : Fault) : Prop :=
  OfTransport fault ∨ Foreign client closed fault

/-- The fault is one of the configuration, or one that the client raises. -/
def OfErrand (client : Http.Client ω) (closed : Bool) (fault : Fault) : Prop :=
  fault.isConfiguration = true ∨ Foreign client closed fault

/-- The call that a session which is opened now begins with. -/
def newCall (scene : Scene (Line ω)) : Call ω :=
  ⟨Rest.Session.start scene.desk.settings scene.negotiation.roster.workingSet, scene.desk.world⟩

theorem faults_of_addresses (client : Http.Client ω) (call : Call ω) (role : Role) :
    Faults (addressesOf client role call).1 (OnTheWay client call.session.isClosed)
      (Misshapen client call) where
  told := Rest.addressesOf_error
  shape_iff := Rest.addressesOf_shape role

theorem faults_of_answer (client : Http.Client ω) (scene : Scene (Line ω)) (role : Role) :
    Faults (firstAnswer (Rest.channel client) (.nodes role) scene).1 (OnTheWay client false)
      (Misshapen client (newCall scene)) :=
  faults_of_addresses client (newCall scene) role

theorem Faults.onErrand {α : Type} {outcome : Except Fault α} {shape : ShapeFault → Prop}
    (faults : Faults outcome (OnTheWay client closed) shape) (errand : Errand) :
    Faults (outcome.mapError (·.onErrand errand)) (OfErrand client closed) shape where
  told failed := by
    cases outcome with
    | ok a => cases failed
    | error fault =>
      cases failed
      rcases faults.told rfl with (⟨reason, rfl⟩ | ⟨own, rfl, raises⟩) | ⟨f, rfl⟩
      · exact .inl (.inl rfl)
      · exact .inl (.inr ⟨own, rfl, raises⟩)
      · exact .inr ⟨f, rfl⟩
  shape_iff f := by
    rw [← faults.shape_iff f]
    cases outcome with
    | ok a => exact ⟨nofun, nofun⟩
    | error fault =>
      constructor
      · intro failed
        rcases faults.told rfl with (⟨reason, rfl⟩ | ⟨own, rfl, -⟩) | ⟨g, rfl⟩
        · cases failed
        · cases failed
        · cases failed
          rfl
      · intro failed
        cases failed
        rfl

/-- What is done with an answer afterwards adds faults of the configuration at most. -/
theorem Faults.andThen {α β : Type} {outcome : Except Fault α} {shape : ShapeFault → Prop}
    (faults : Faults outcome (OfErrand client closed) shape) {next : α → Except Fault β}
    (safe : ∀ a fault, next a = .error fault → fault.isConfiguration = true) :
    Faults (outcome.bind next) (OfErrand client closed) shape where
  told failed := by
    cases outcome with
    | error fault =>
      cases failed
      exact faults.told rfl
    | ok a => exact .inl (.inl (safe a _ failed))
  shape_iff f := by
    rw [← faults.shape_iff f]
    cases outcome with
    | error fault => exact ⟨fun same => by cases same; rfl, fun same => by cases same; rfl⟩
    | ok a =>
      refine ⟨fun failed => ?_, nofun⟩
      have configuration := safe a _ failed
      cases configuration

theorem Faults.when {α : Type} {outcome : Except Fault α} {own : Fault → Prop}
    {shape : ShapeFault → Prop} (faults : Faults outcome own shape) {condition : Prop}
    (holds : condition) : Faults outcome own fun f => condition ∧ shape f where
  told := faults.told
  shape_iff f := (faults.shape_iff f).trans ⟨fun shaped => ⟨holds, shaped⟩, fun both => both.2⟩

theorem faults_of_growth (scene : Scene (Line ω)) :
    Faults (extendNodes (Rest.channel client) scene).1 (OfErrand client false) fun f =>
      scene.negotiation.roster.discoveryEnabled = true ∧ Misshapen client (newCall scene) f := by
  cases on : scene.negotiation.roster.discoveryEnabled with
  | false =>
    rw [extendNodes_off on]
    exact ⟨nofun, fun f => ⟨nofun, nofun⟩⟩
  | true =>
    have asked := (faults_of_answer client scene .any).onErrand .extendNodes
    rw [extendNodes_fst on]
    exact (asked.andThen fun found fault failed => by cases failed).when rfl

theorem faults_of_narrowing (scene : Scene (Line ω))
    (proper : scene.negotiation.roster.restriction ≠ some .any) :
    Faults (narrowNodes (Rest.channel client) scene).1 (OfErrand client false) fun f =>
      scene.negotiation.roster.restriction ≠ none ∧ Misshapen client (newCall scene) f := by
  cases restricted : scene.negotiation.roster.restriction with
  | none =>
    rw [narrowNodes_off restricted]
    exact ⟨nofun, fun f => ⟨nofun, fun both => absurd rfl both.1⟩⟩
  | some role =>
    have properRole : role ≠ .any := fun same => proper (by rw [restricted, same])
    have asked := (faults_of_answer client scene role).onErrand (.listNodes role)
    rw [narrowNodes_fst restricted properRole]
    refine (asked.andThen fun listed fault failed => ?_).when nofun
    cases left : scene.negotiation.roster.narrow role listed with
    | error shortage =>
      rw [left] at failed
      cases failed
      rfl
    | ok narrowed =>
      rw [left] at failed
      cases failed

/-- Asking for nodes fails with a fault of transport, growth and narrowing with a fault of the
configuration, except that a description which cannot be read comes through as a fault of its shape,
and comes through always; and so does whatever the client raises that is no error of its own. -/
theorem faults_over_rest {s : Settings} {n : Negotiation}
    (made : Negotiation.ofSettings s = .ok n) (client : Http.Client ω) (role : Role)
    (call : Call ω) (desk : Desk (Line ω)) (steps : List Step) :
    let now := run (Rest.channel client) steps ⟨desk, n⟩
    Faults (addressesOf client role call).1 (OnTheWay client call.session.isClosed)
        (Misshapen client call) ∧
      Faults (extendNodes (Rest.channel client) now).1 (OfErrand client false) (fun f =>
        now.negotiation.roster.discoveryEnabled = true ∧ Misshapen client (newCall now) f) ∧
      Faults (narrowNodes (Rest.channel client) now).1 (OfErrand client false) (fun f =>
        now.negotiation.roster.restriction ≠ none ∧ Misshapen client (newCall now) f) := by
  intro now
  have follows := run_follows (Rest.channel client) ⟨desk, n⟩ (nodup_of_settings made) steps
  have proper : now.negotiation.roster.restriction ≠ some .any := by
    rw [follows.restriction]
    exact restriction_proper made
  exact ⟨faults_of_addresses client call role, faults_of_growth now, faults_of_narrowing now proper⟩

/-- Every node answers every request with status 200 and the same text. -/
def answering (body : String) : Line Http.Script :=
  ⟨[{ reply := .ok ⟨200, body.toUTF8.data.toList⟩ }], []⟩

/-- Roles that are a number cannot be read, whether nodes are asked for alone or to narrow them. -/
theorem numeric_roles_escape :
    let client := Http.Script.wire
    let cluster := answering
      ("\x7b\"nodes\": \x7b\"n1\": \x7b\"http\": \x7b\"publish_address\": \"a:9200\"\x7d, " ++
        "\"roles\": 7\x7d\x7d\x7d")
    let call : Call Http.Script := ⟨{ nodes := ["a:9200"] }, cluster⟩
    let n : Negotiation := ⟨⟨["localhost:9200"], true, some .data⟩, none⟩
    let now := run (Rest.channel client) [.extendNodes] ⟨⟨{}, cluster, {}⟩, n⟩
    Negotiation.ofSettings {} = .ok n ∧ client.Orderly ∧
      Misshapen client call .noItems ∧ Misshapen client (newCall now) .noItems ∧
      (narrowNodes (Rest.channel client) now).1 = .error (.shape .noItems) := by
  intro client cluster call n now
  have escaped : (narrowNodes (Rest.channel client) now).1 = .error (.shape .noItems) := by
    decide +kernel
  obtain ⟨alone, -, narrowing⟩ :=
    faults_over_rest (s := {}) (n := n) rfl client .data call ⟨{}, cluster, {}⟩ [.extendNodes]
  exact ⟨rfl, Http.Script.orderly, (alone.shape_iff .noItems).mp (by decide +kernel),
    ((narrowing.shape_iff .noItems).mp escaped).2, escaped⟩

/-- A description that is `null` cannot be read either. The fault is neither one of transport nor,
told by growth, one of the configuration. -/
theorem null_description_escapes :
    let cluster := answering "\x7b\"nodes\": \x7b\"n1\": null\x7d\x7d"
    let call : Call Http.Script := ⟨{ nodes := ["a:9200"] }, cluster⟩
    let s : Settings := { nodes := ["a:9200"] }
    let n : Negotiation := ⟨⟨["a:9200"], true, some .data⟩, none⟩
    call.session.isClosed = false ∧ Negotiation.ofSettings s = .ok n ∧
      (addressesOf Http.Script.wire .any call).1 = .error (.shape .noMembers) ∧
      ¬ OfTransport (.shape .noMembers) ∧
      (extendNodes (Rest.channel Http.Script.wire) ⟨⟨s, cluster, {}⟩, n⟩).1 =
        .error (.shape .noMembers) ∧
      (Fault.shape .noMembers).isConfiguration = false :=
  ⟨rfl, rfl, by decide +kernel, nofun, by decide +kernel, rfl⟩

end Clearance.Negotiation
