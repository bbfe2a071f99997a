import Clearance.Proofs.FirstOccurrence
import Clearance.Proofs.Rest.Shape
import Clearance.Rest.Session

/-!
# What comes of asking for nodes

The descriptions of the nodes arrive by a client that may do anything. Whatever goes wrong on the
way to them is a fault of transport, unless the client raises something that is none of its own
errors; what goes wrong in reading them is a fault of their shape.

Results:
1. `fetch_error`, `fetch_eq_ok`: fetching an object.
2. `addressesOf_known`, `addressesOf_fetched`: the addresses of a role.
3. `Misshapen`, `addressesOf_shape`: when the addresses fail with a fault of shape.
4. `addressesOf_error`: there is no other fault than these.
-/

namespace Clearance.Rest

open Http (Client Reply Request Response)
open Json (Members)
open Text (Glyph)

variable {ω : Type} {client : Client ω} {call : Call ω}

/-- The fault is one of transport. -/
def OfTransport (fault : Fault) : Prop :=
  ∃ reason, fault = .transport reason

/-- The fault is one that the client raises, open or closed. -/
def Foreign (client : Client ω) (closed : Bool) (fault : Fault) : Prop :=
  ∃ own, fault = .misuse own ∧ client.Raises closed own

/-! ## Requests -/

theorem send_of_reply {r : Request} {reply : Reply} {after : ω}
    (came : client.request call.session.isClosed r call.line.world = (reply, after)) :
    send client r call =
      (.ok reply, { call with line := ⟨after, call.line.sent ++ reply.sent r⟩ }) := by
  rw [send, came]

theorem tryNodes_error {session : Session} {method : Http.Method} {path : String}
    {failures : List (String × String)} {nodes : List String} {fault : Fault}
    (failed : (tryNodes client session method path failures nodes call).1 = .error fault) :
    OfTransport fault ∨ Foreign client call.session.isClosed fault := by
  induction nodes generalizing failures call with
  | nil =>
    cases failed
    exact .inl ⟨_, rfl⟩
  | cons node rest ih =>
    rcases came : client.request call.session.isClosed (session.requestTo method path node)
      call.line.world with ⟨reply, after⟩
    rw [tryNodes, Attempt.bind_of_ok (send_of_reply came)] at failed
    cases reply with
    | answered response => cases failed
    -- A node at which the client fails is only noted, and the next one is tried.
    | failed failure =>
      have later := ih failed
      exact later
    | raised gone own =>
      cases failed
      exact .inr ⟨own, rfl, _, _, gone, congrArg Prod.fst came⟩

theorem request_error {method : Http.Method} {path : String} {fault : Fault}
    (failed : (request client method path call).1 = .error fault) :
    OfTransport fault ∨ Foreign client call.session.isClosed fault := by
  rw [request, Attempt.bind_of_ok (Attempt.get_apply call)] at failed
  split at failed
  · cases failed
    exact .inl ⟨_, rfl⟩
  · exact tryNodes_error failed

/-! ## Objects -/

theorem objectOf_eq_ok {path : String} {response : Response} {document : Members} :
    objectOf path response = .ok document ↔
      response.status = 200 ∧ Json.readBytes response.body = some (.object document) := by
  unfold objectOf
  split
  · next bad => simp [bad]
  · next good =>
    have status : response.status = 200 := Decidable.not_not.mp good
    split
    · next none => simp [none]
    · next members read => simp [status, read]
    · next v plain read =>
      rw [read]
      refine ⟨nofun, fun ⟨_, same⟩ => ?_⟩
      exact absurd (Option.some.inj same) (plain document)

theorem fetch_fst (path : String) :
    (fetch client path call).1 =
      (request client .get path call).1.bind fun response =>
        (objectOf path response).mapError .transport := by
  rw [fetch, Attempt.bind_apply]
  rcases request client .get path call with ⟨fault | response, next⟩ <;> rfl

theorem fetch_error {path : String} {fault : Fault}
    (failed : (fetch client path call).1 = .error fault) :
    OfTransport fault ∨ Foreign client call.session.isClosed fault := by
  rw [fetch_fst] at failed
  cases sent : (request client .get path call).1 with
  | error other =>
    rw [sent] at failed
    cases failed
    exact request_error sent
  | ok response =>
    rw [sent] at failed
    dsimp only [Except.bind] at failed
    obtain ⟨reason, -, rfl⟩ := mapError_eq_error.mp failed
    exact .inl ⟨reason, rfl⟩

/-- An object is fetched if the first node that answers does so with status 200 and an object. -/
theorem fetch_eq_ok {path : String} {document : Members} :
    (fetch client path call).1 = .ok document ↔
      ∃ response, (request client .get path call).1 = .ok response ∧
        response.status = 200 ∧ Json.readBytes response.body = some (.object document) := by
  rw [fetch_fst]
  cases (request client .get path call).1 with
  | error fault => exact ⟨nofun, nofun⟩
  | ok response =>
    dsimp only [Except.bind]
    rw [mapError_eq_ok, objectOf_eq_ok]
    simp

/-! ## Addresses -/

theorem mem_addresses {nodes : List Node} {role : Role} {a : String} :
    a ∈ Node.addresses nodes role ↔ ∃ n ∈ nodes, n.satisfies role = true ∧ n.address = a := by
  rw [Node.addresses, List.mem_eraseDups, List.mem_map]
  constructor
  · rintro ⟨n, present, same⟩
    obtain ⟨listed, able⟩ := List.mem_filter.mp present
    exact ⟨n, listed, able, same⟩
  · rintro ⟨n, listed, able, same⟩
    exact ⟨n, List.mem_filter.mpr ⟨listed, able⟩, same⟩

/-- A node that is listed for a role is listed among all of them. -/
theorem addresses_subset (nodes : List Node) (role : Role) :
    ∀ a ∈ Node.addresses nodes role, a ∈ Node.addresses nodes .any := by
  intro a present
  obtain ⟨n, listed, -, same⟩ := mem_addresses.mp present
  exact mem_addresses.mpr ⟨n, listed, n.satisfies_any, same⟩

theorem clusterNodes_known {nodes : List Node} (known : call.session.known = some nodes) :
    clusterNodes client call = (.ok nodes, call) := by
  rw [clusterNodes, Attempt.bind_of_ok (Attempt.get_apply call), known]
  rfl

theorem addressesOf_known {nodes : List Node} (known : call.session.known = some nodes)
    (role : Role) : addressesOf client role call = (.ok (Node.addresses nodes role), call) := by
  rw [addressesOf, Attempt.bind_of_ok (clusterNodes_known known)]
  rfl

/-- Where nothing is known yet, the nodes are those that are fetched and read. They are kept if that
can be done. -/
theorem clusterNodes_fetched (unknown : call.session.known = none) {outcome : Except Fault Members}
    {next : Call ω} (fetched : fetch client "/_nodes/http" call = (outcome, next)) :
    clusterNodes client call =
      match outcome.bind nodesOf with
      | .error fault => (.error fault, next)
      | .ok described => (.ok described,
          { next with session := { next.session with known := some described } }) := by
  rw [clusterNodes, Attempt.bind_of_ok (Attempt.get_apply call), unknown]
  cases outcome with
  | error fault => exact Attempt.bind_of_error fetched
  | ok document =>
    refine (Attempt.bind_of_ok fetched).trans ?_
    dsimp only [Except.bind]
    cases nodesOf document <;> rfl

theorem addressesOf_fetched (unknown : call.session.known = none) {outcome : Except Fault Members}
    {next : Call ω} (fetched : fetch client "/_nodes/http" call = (outcome, next)) (role : Role) :
    addressesOf client role call =
      match outcome.bind nodesOf with
      | .error fault => (.error fault, next)
      | .ok described => (.ok (Node.addresses described role),
          { next with session := { next.session with known := some described } }) := by
  rw [addressesOf, Attempt.bind_pure_apply, clusterNodes_fetched unknown fetched]
  cases outcome.bind nodesOf <;> rfl

theorem addressesOf_unknown (unknown : call.session.known = none) (role : Role) :
    (addressesOf client role call).1 =
      (fetch client "/_nodes/http" call).1.bind fun document =>
        (nodesOf document).map fun nodes => Node.addresses nodes role := by
  rcases fetched : fetch client "/_nodes/http" call with ⟨fault | document, next⟩
  · rw [addressesOf_fetched unknown fetched]
    rfl
  · rw [addressesOf_fetched unknown fetched]
    dsimp only [Except.bind]
    cases nodesOf document <;> rfl

/-- The cluster describes these nodes, if it is asked for them now. -/
def Describes (client : Client ω) (call : Call ω) (nodes : List Node) : Prop :=
  ∃ document, (fetch client "/_nodes/http" call).1 = .ok document ∧ nodesOf document = .ok nodes

theorem describes_iff {nodes : List Node} :
    Describes client call nodes ↔ (fetch client "/_nodes/http" call).1.bind nodesOf = .ok nodes := by
  rw [Describes]
  cases (fetch client "/_nodes/http" call).1 with
  | error fault =>
    refine ⟨?_, nofun⟩
    rintro ⟨_, fetched, -⟩
    cases fetched
  | ok document =>
    constructor
    · rintro ⟨_, fetched, read⟩
      cases fetched
      exact read
    · intro read
      exact ⟨document, rfl, read⟩

theorem addressesOf_described (unknown : call.session.known = none) {nodes : List Node}
    (described : Describes client call nodes) (role : Role) :
    (addressesOf client role call).1 = .ok (Node.addresses nodes role) := by
  obtain ⟨document, fetched, read⟩ := described
  rw [addressesOf_unknown unknown, fetched]
  dsimp only [Except.bind]
  rw [read]
  rfl

/-- A question for nodes is answered by descriptions of which one cannot be read: no nodes are known
yet, and the first node that answers does so with status 200 and an object of which the member
`nodes` holds them. -/
def Misshapen (client : Client ω) (call : Call ω) (fault : ShapeFault) : Prop :=
  call.session.known = none ∧
    ∃ response document descriptions,
      (request client .get "/_nodes/http" call).1 = .ok response ∧
      response.status = 200 ∧ Json.readBytes response.body = some (.object document) ∧
      Members.get? (Glyph.ofString "nodes") document = some (.object descriptions) ∧
      FirstFlawed descriptions fault

theorem mapError_shape {α : Type} {x : Except ShapeFault α} {fault : ShapeFault} :
    x.mapError Fault.shape = .error (.shape fault) ↔ x = .error fault := by
  cases x with
  | error other => exact ⟨fun same => by cases same; rfl, fun same => by cases same; rfl⟩
  | ok a => exact ⟨nofun, nofun⟩

theorem nodesOf_shape {document : Members} {fault : ShapeFault} :
    nodesOf document = .error (.shape fault) ↔
      ∃ descriptions,
        Members.get? (Glyph.ofString "nodes") document = some (.object descriptions) ∧
        FirstFlawed descriptions fault := by
  unfold nodesOf
  split
  · next descriptions given =>
    rw [mapError_shape, ofDocuments_eq_error]
    constructor
    · intro flawed
      exact ⟨descriptions, given, flawed⟩
    · rintro ⟨_, same, flawed⟩
      cases given.symm.trans same
      exact flawed
  · next plain =>
    refine ⟨nofun, ?_⟩
    rintro ⟨descriptions, given, -⟩
    exact absurd given (plain descriptions)

theorem nodesOf_error {document : Members} {fault : Fault}
    (failed : nodesOf document = .error fault) : OfTransport fault ∨ ∃ f, fault = .shape f := by
  unfold nodesOf at failed
  split at failed
  · next descriptions _ =>
    cases read : Node.ofDocuments descriptions with
    | error other =>
      rw [read] at failed
      cases failed
      exact .inr ⟨other, rfl⟩
    | ok nodes =>
      rw [read] at failed
      cases failed
  · cases failed
    exact .inl ⟨_, rfl⟩

/-- Addresses fail with a fault of transport or of shape, or with one that the client raises. -/
theorem addressesOf_error {role : Role} {fault : Fault}
    (failed : (addressesOf client role call).1 = .error fault) :
    (OfTransport fault ∨ Foreign client call.session.isClosed fault) ∨ ∃ f, fault = .shape f := by
  cases known : call.session.known with
  | some nodes =>
    rw [addressesOf_known known] at failed
    cases failed
  | none =>
    rw [addressesOf_unknown known] at failed
    cases fetched : (fetch client "/_nodes/http" call).1 with
    | error other =>
      rw [fetched] at failed
      cases failed
      exact .inl (fetch_error fetched)
    | ok document =>
      rw [fetched] at failed
      exact (nodesOf_error (map_eq_error.mp failed)).imp_left .inl

/-- They fail with a fault of shape just where a description cannot be read. -/
theorem addressesOf_shape (role : Role) (fault : ShapeFault) :
    (addressesOf client role call).1 = .error (.shape fault) ↔ Misshapen client call fault := by
  cases known : call.session.known with
  | some nodes =>
    rw [addressesOf_known known]
    refine ⟨nofun, fun misshapen => ?_⟩
    rw [misshapen.1] at known
    cases known
  | none =>
    rw [addressesOf_unknown known]
    constructor
    · intro failed
      cases fetched : (fetch client "/_nodes/http" call).1 with
      | error other =>
        rw [fetched] at failed
        cases failed
        rcases fetch_error fetched with ⟨reason, same⟩ | ⟨own, same, -⟩
        all_goals cases same
      | ok document =>
        rw [fetched] at failed
        obtain ⟨response, sent, status, read⟩ := fetch_eq_ok.mp fetched
        obtain ⟨descriptions, given, flawed⟩ := nodesOf_shape.mp (map_eq_error.mp failed)
        exact ⟨known, response, document, descriptions, sent, status, read, given, flawed⟩
    · rintro ⟨-, response, document, descriptions, sent, status, read, given, flawed⟩
      rw [fetch_eq_ok.mpr ⟨response, sent, status, read⟩]
      exact map_eq_error.mpr (nodesOf_shape.mpr ⟨descriptions, given, flawed⟩)

end Clearance.Rest
