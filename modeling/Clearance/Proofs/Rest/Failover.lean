import Clearance.Proofs.Rest.Session
import Clearance.Proofs.Text.Lower
import Clearance.Rest.Channel

/-!
# From node to node

A request is handed to the client for the nodes of a session in order. A node at which the client
fails is followed by the next one, and the first node that answers ends the search, as anything else
does that the client raises. This is told here as a relation that says which requests go out on the
way; it leaves no choice, and requests go by it.

Results:
1. `Tried`, `Tried.total`, `Tried.unique`: the search, and that it comes to exactly one end.
2. `Learns.request`, `Learns.read`: an attempt that consists of one request goes by the search.
3. `Learns.presence`, `Learns.health`: what is learned about an index.
-/

namespace Clearance.Rest

open Http (Client Method Reply Request Response)
open Json (Members)
open Text (Glyph)

variable {ω : Type} {client : Client ω}

/-! ## The search -/

/-- What comes of the request to a node, and the world afterwards. -/
def Session.replyAt (session : Session) (client : Client ω) (method : Method) (path node : String)
    (world : ω) : Reply × ω :=
  client.request session.isClosed (session.requestTo method path node) world

/-- The client takes a request to one of the nodes at any time, and on the way there raises nothing
but errors of its own. -/
def Session.CanSend (session : Session) (client : Client ω) (method : Method) (path : String) :
    Prop :=
  (∀ own, ¬ client.Raises session.isClosed own) ∧ ∃ node ∈ session.nodes, ∀ world,
    (session.replyAt client method path node world).1.sent (session.requestTo method path node) ≠ []

/-- How a search ends. -/
inductive Finish where
  /-- The client failed at every node. -/
  | silence
  | answered (response : Response)
  /-- The client raised something else than an error of its own. -/
  | raised (fault : MisuseFault)

/-- How a request fares on the nodes: what goes out, how the search ends, and the world
afterwards. -/
inductive Tried (client : Client ω) (session : Session) (method : Method) (path : String) :
    List String → ω → List Request → Finish → ω → Prop
  | nobody {world : ω} : Tried client session method path [] world [] .silence world
  | failed {node : String} {rest : List String} {world between after : ω} {failure : Http.Failure}
      {sent : List Request} {finish : Finish}
      (lost : session.replyAt client method path node world = (.failed failure, between))
      (later : Tried client session method path rest between sent finish after) :
      Tried client session method path (node :: rest) world
        ((Reply.failed failure).sent (session.requestTo method path node) ++ sent) finish after
  | answered {node : String} {rest : List String} {world after : ω} {response : Response}
      (answer : session.replyAt client method path node world = (.answered response, after)) :
      Tried client session method path (node :: rest) world [session.requestTo method path node]
        (.answered response) after
  | raised {node : String} {rest : List String} {world after : ω} {gone : Bool}
      {fault : MisuseFault}
      (broke : session.replyAt client method path node world = (.raised gone fault, after)) :
      Tried client session method path (node :: rest) world
        ((Reply.raised gone fault).sent (session.requestTo method path node)) (.raised fault) after

theorem sent_sublist (r : Request) (reply : Reply) : (reply.sent r).Sublist [r] := by
  unfold Reply.sent
  split
  · exact List.Sublist.refl _
  all_goals
    split
    · exact List.Sublist.refl _
    · exact List.nil_sublist _

namespace Tried

variable {session : Session} {method : Method} {path : String} {nodes : List String}
  {world after after' : ω} {sent sent' : List Request} {finish finish' : Finish}

/-- The search comes to an end. -/
theorem total (client : Client ω) (session : Session) (method : Method) (path : String)
    (nodes : List String) (world : ω) :
    ∃ sent finish after, Tried client session method path nodes world sent finish after := by
  induction nodes generalizing world with
  | nil => exact ⟨[], .silence, world, .nobody⟩
  | cons node rest ih =>
    rcases reply : session.replyAt client method path node world with
      ⟨response | failure | ⟨gone, fault⟩, between⟩
    · exact ⟨_, _, _, .answered reply⟩
    · obtain ⟨sent, finish, after, later⟩ := ih between
      exact ⟨_, _, _, .failed reply later⟩
    · exact ⟨_, _, _, .raised reply⟩

/-- It has no other one. -/
theorem unique (first : Tried client session method path nodes world sent finish after)
    (second : Tried client session method path nodes world sent' finish' after') :
    sent = sent' ∧ finish = finish' ∧ after = after' := by
  -- Both searches come to the same node and hear the same from it, so they go the same way.
  induction first generalizing sent' with
  | nobody =>
    cases second
    exact ⟨rfl, rfl, rfl⟩
  | failed lost later ih =>
    cases second with
    | failed lost' later' =>
      cases lost.symm.trans lost'
      obtain ⟨same, rest⟩ := ih later'
      exact ⟨by rw [same], rest⟩
    | answered other | raised other => cases lost.symm.trans other
  | answered answer =>
    cases second with
    | answered answer' =>
      cases answer.symm.trans answer'
      exact ⟨rfl, rfl, rfl⟩
    | failed other | raised other => cases answer.symm.trans other
  | raised broke =>
    cases second with
    | raised broke' =>
      cases broke.symm.trans broke'
      exact ⟨rfl, rfl, rfl⟩
    | failed other | answered other => cases broke.symm.trans other

/-- What goes out are requests to the nodes in their order, at most one for each place. -/
theorem sent_in_order (tried : Tried client session method path nodes world sent finish after) :
    sent.Sublist (nodes.map (session.requestTo method path)) := by
  induction tried with
  | nobody => exact List.Sublist.refl []
  | failed lost later ih => exact (sent_sublist _ _).append ih
  | answered => exact List.singleton_sublist.mpr List.mem_cons_self
  | raised => exact (sent_sublist _ _).trans (List.singleton_sublist.mpr List.mem_cons_self)

theorem sent_to (tried : Tried client session method path nodes world sent finish after) :
    ∀ r ∈ sent, ∃ node ∈ nodes, r = session.requestTo method path node := by
  intro r present
  obtain ⟨node, listed, rfl⟩ := List.mem_map.mp (tried.sent_in_order.subset present)
  exact ⟨node, listed, rfl⟩

/-- What the client raised on the way it raised in the state of its session. -/
theorem raises {fault : MisuseFault}
    (tried : Tried client session method path nodes world sent (.raised fault) after) :
    client.Raises session.isClosed fault := by
  generalize broken : Finish.raised fault = finish at tried
  induction tried with
  | nobody | answered => cases broken
  | failed _ _ ih => exact ih broken
  | raised broke =>
    cases broken
    exact ⟨_, _, _, congrArg Prod.fst broke⟩

/-- Something goes out if the client takes the request to one of the nodes and raises nothing before
it comes to it. -/
theorem sent_ne_nil (tried : Tried client session method path nodes world sent finish after)
    (steady : ∀ own, ¬ client.Raises session.isClosed own) {node : String} (listed : node ∈ nodes)
    (goes : ∀ world, (session.replyAt client method path node world).1.sent
      (session.requestTo method path node) ≠ []) : sent ≠ [] := by
  induction tried with
  | nobody => exact absurd listed List.not_mem_nil
  | @failed _ _ world _ _ _ _ _ lost later ih =>
    rcases List.mem_cons.mp listed with rfl | behind
    · have gone := goes world
      rw [lost] at gone
      exact List.append_ne_nil_of_left_ne_nil gone _
    · exact List.append_ne_nil_of_right_ne_nil _ (ih behind)
  | answered answer => exact List.cons_ne_nil _ _
  | raised broke => exact absurd ⟨_, _, _, congrArg Prod.fst broke⟩ (steady _)

end Tried

/-- The first node that answers gives this response, when these requests have gone out. -/
def FirstAnswer (client : Client ω) (session : Session) (method : Method) (path : String)
    (world : ω) (sent : List Request) (response : Response) (after : ω) : Prop :=
  Tried client session method path session.nodes world sent (.answered response) after

/-- The search has one end only, on which it depends what holds of the first answer. -/
theorem Tried.exists_firstAnswer {session : Session} {method : Method} {path : String}
    {world after : ω} {sent : List Request} {finish : Finish} {P : Response → ω → Prop}
    (tried : Tried client session method path session.nodes world sent finish after) :
    (∃ sent response after,
        FirstAnswer client session method path world sent response after ∧ P response after) ↔
      ∃ response, finish = .answered response ∧ P response after := by
  constructor
  · rintro ⟨_, response, _, first, holds⟩
    obtain ⟨-, rfl, rfl⟩ := tried.unique first
    exact ⟨response, rfl, holds⟩
  · rintro ⟨response, rfl, holds⟩
    exact ⟨sent, response, after, tried, holds⟩

/-! ## Requests -/

variable {α β : Type} {session : Session} {method : Method} {path : String} {finish : Finish}
  {outcome : Except Fault α} {tells : Response → α → Prop}

/-- What is learned from the answer is what it tells. What the client raises is raised again, and
otherwise there is a fault of transport. -/
structure Learned (finish : Finish) (outcome : Except Fault α) (tells : Response → α → Prop) :
    Prop where
  told : ∀ a, outcome = .ok a ↔ ∃ response, finish = .answered response ∧ tells response a
  raised : ∀ fault, outcome = .error (.misuse fault) ↔ finish = .raised fault
  untold : ∀ {fault}, outcome = .error fault → OfTransport fault ∨ ∃ own, fault = .misuse own

namespace Learned

theorem answered (response : Response) :
    Learned (.answered response) (.ok response) fun response a => response = a where
  told a := by simp
  raised fault := by simp
  untold := nofun

theorem silent (reason : TransportFault) :
    Learned .silence (.error (.transport reason)) tells where
  told a := by simp
  raised fault := by simp
  untold same := by
    cases same
    exact .inl ⟨reason, rfl⟩

theorem broken (fault : MisuseFault) :
    Learned (.raised fault) (.error (.misuse fault)) tells where
  told a := by simp
  raised other := by simp
  untold same := by
    cases same
    exact .inr ⟨fault, rfl⟩

/-- What is read out of the answer. -/
theorem read (learned : Learned finish outcome tells) (next : α → Except TransportFault β) :
    Learned finish (outcome.bind fun a => (next a).mapError .transport) fun response b =>
      ∃ a, tells response a ∧ next a = .ok b where
  told b := by
    cases outcome with
    | error fault =>
      refine ⟨nofun, ?_⟩
      rintro ⟨response, same, a, tells, -⟩
      cases (learned.told a).mpr ⟨response, same, tells⟩
    | ok a =>
      obtain ⟨response, same, tellsOwn⟩ := (learned.told a).mp rfl
      constructor
      · intro good
        exact ⟨response, same, a, tellsOwn, mapError_eq_ok.mp good⟩
      · rintro ⟨response', same', a', tells', good⟩
        cases (learned.told a').mpr ⟨response', same', tells'⟩
        exact mapError_eq_ok.mpr good
  raised fault := by
    rw [← learned.raised fault]
    cases outcome with
    | error own => exact ⟨fun same => by cases same; rfl, fun same => by cases same; rfl⟩
    | ok a =>
      refine ⟨fun same => ?_, nofun⟩
      obtain ⟨_, -, own⟩ := mapError_eq_error.mp same
      cases own
  untold {fault} failed := by
    cases outcome with
    | error own =>
      cases failed
      exact learned.untold rfl
    | ok a =>
      obtain ⟨reason, -, rfl⟩ := mapError_eq_error.mp failed
      exact .inl ⟨reason, rfl⟩

end Learned

/-- The attempt consists of one request, and what it learns is what the answer tells. -/
def Learns (client : Client ω) (session : Session) (method : Method) (path : String)
    (x : Attempt (Call ω) α) (tells : Response → α → Prop) : Prop :=
  ∀ (world after : ω) (sent : List Request) (finish : Finish),
    Tried client session method path session.nodes world sent finish after →
    ∀ before, ∃ outcome,
      x ⟨session, ⟨world, before⟩⟩ = (outcome, ⟨session, ⟨after, before ++ sent⟩⟩) ∧
      Learned finish outcome tells

theorem send_of_replyAt {node : String} {reply : Reply} {world after : ω}
    (came : session.replyAt client method path node world = (reply, after))
    (before : List Request) :
    send client (session.requestTo method path node) ⟨session, ⟨world, before⟩⟩ =
      (.ok reply,
        ⟨session, ⟨after, before ++ reply.sent (session.requestTo method path node)⟩⟩) :=
  send_of_reply came

theorem tryNodes_of_tried {nodes : List String} {world after : ω} {sent : List Request}
    (tried : Tried client session method path nodes world sent finish after)
    (failures : List (String × String)) (before : List Request) :
    ∃ outcome,
      tryNodes client session method path failures nodes ⟨session, ⟨world, before⟩⟩ =
        (outcome, ⟨session, ⟨after, before ++ sent⟩⟩) ∧
      Learned finish outcome fun response a => response = a := by
  induction tried generalizing failures before with
  | nobody => exact ⟨_, by rw [tryNodes, List.append_nil]; rfl, .silent _⟩
  | failed lost later ih =>
    rw [tryNodes, Attempt.bind_of_ok (send_of_replyAt lost before), ← List.append_assoc]
    exact ih _ _
  | answered answer =>
    rw [tryNodes, Attempt.bind_of_ok (send_of_replyAt answer before)]
    exact ⟨_, rfl, .answered _⟩
  | raised broke =>
    rw [tryNodes, Attempt.bind_of_ok (send_of_replyAt broke before)]
    exact ⟨_, rfl, .broken _⟩

namespace Learns

theorem request :
    Learns client session method path (request client method path) fun response a =>
      response = a := by
  intro world after sent finish tried before
  rw [Rest.request, Attempt.bind_of_ok (Attempt.get_apply _)]
  dsimp only
  split
  · next empty =>
    rw [empty] at tried
    cases tried
    exact ⟨_, by rw [List.append_nil]; rfl, .silent .noNodes⟩
  · exact tryNodes_of_tried tried [] before

/-- What is read out of the answer afterwards needs no other request. -/
theorem read {x : Attempt (Call ω) α} (learns : Learns client session method path x tells)
    (next : α → Except TransportFault β) :
    Learns client session method path
      (x >>= fun a => Attempt.ofExcept ((next a).mapError .transport))
      fun response b => ∃ a, tells response a ∧ next a = .ok b := by
  intro world after sent finish tried before
  obtain ⟨outcome, came, learned⟩ := learns _ _ _ _ tried before
  refine ⟨_, ?_, learned.read next⟩
  rw [Attempt.bind_apply, came]
  cases outcome <;> rfl

theorem restate {x : Attempt (Call ω) α} (learns : Learns client session method path x tells)
    {tells' : Response → α → Prop} (same : ∀ response a, tells response a ↔ tells' response a) :
    Learns client session method path x tells' := by
  intro world after sent finish tried before
  obtain ⟨outcome, came, learned⟩ := learns _ _ _ _ tried before
  refine ⟨outcome, came, fun a => (learned.told a).trans ?_, learned.raised, learned.untold⟩
  simp only [same]

end Learns

/-! ## What is asked about an index -/

/-- An index is there or is not, as the status of the answer says. -/
def TellsPresence (response : Response) (here : Bool) : Prop :=
  response.status = if here then 200 else 404

theorem presenceOf_eq_ok {path : String} {response : Response} {here : Bool} :
    presenceOf path response = .ok here ↔ TellsPresence response here := by
  unfold TellsPresence
  rw [presenceOf]
  split
  · next present => cases here <;> simp [present]
  · next notPresent =>
    split
    · next absent => cases here <;> simp [absent]
    · next notAbsent => cases here <;> simp [notPresent, notAbsent]

/-- The status in a document about an index is this word, spelt in small or in capital letters of
ASCII. -/
def StatusIs (document : Members) (word : String) : Prop :=
  ∃ status, Members.get? (Glyph.ofString "status") document = some status ∧
    String.ofList (status.text.toList.map Char.toLower) = word

theorem ofLabel_eq_some {name : String} {health : Health} :
    Health.ofLabel? name = some health ↔ name = health.label := by
  constructor
  · intro found
    have same := List.find?_some found
    exact (beq_iff_eq.mp same).symm
  · rintro rfl
    cases health <;> rfl

/-- No label has an `i` or a `k` in it, so that letters of ASCII alone spell it. -/
theorem plain_of_mem_label (health : Health) : ∀ c ∈ health.label.toList, Text.Plain c :=
  Text.plain_of_all (by cases health <;> decide)

theorem healthOf_eq_ok {name : String} {document : Members} {health : Health} :
    healthOf name document = .ok health ↔ StatusIs document health.label := by
  unfold healthOf StatusIs
  cases Members.get? (Glyph.ofString "status") document with
  | none => cases health <;> simp [Health.ofLabel?, Health.label]
  | some status =>
    simp only [Option.some.injEq, exists_eq_left', ← Text.lower_eq_iff (plain_of_mem_label health),
      ← ofLabel_eq_some]
    split
    · next own known => simp [known]
    · next unknown => simp [unknown]

/-- The answer is an object that names the health of an index. -/
def TellsHealth (response : Response) (health : Health) : Prop :=
  response.status = 200 ∧ ∃ document, Json.readBytes response.body = some (.object document) ∧
    StatusIs document health.label

theorem Learns.presence (name : String) :
    Learns client session .head (indexPath name) (presence client name) TellsPresence := by
  refine (Learns.request.read (presenceOf (indexPath name))).restate fun response here => ?_
  constructor
  · rintro ⟨_, rfl, read⟩
    exact presenceOf_eq_ok.mp read
  · intro status
    exact ⟨_, rfl, presenceOf_eq_ok.mpr status⟩

/-- An object is in an answer with status 200 that holds it. -/
theorem Learns.fetch (path : String) :
    Learns client session .get path (fetch client path) fun response document =>
      response.status = 200 ∧ Json.readBytes response.body = some (.object document) := by
  refine (Learns.request.read (objectOf path)).restate fun response document => ?_
  constructor
  · rintro ⟨_, rfl, read⟩
    exact objectOf_eq_ok.mp read
  · intro good
    exact ⟨_, rfl, objectOf_eq_ok.mpr good⟩

theorem Learns.health (name : String) :
    Learns client session .get (healthPath name) (health client name) TellsHealth := by
  refine ((Learns.fetch (healthPath name)).read (healthOf name)).restate fun response health => ?_
  constructor
  · rintro ⟨document, ⟨status, read⟩, known⟩
    exact ⟨status, document, read, healthOf_eq_ok.mp known⟩
  · rintro ⟨status, document, read, known⟩
    exact ⟨document, ⟨status, read⟩, healthOf_eq_ok.mpr known⟩

/-! ## Questions over REST -/

theorem answer_of_inquire {query : Cluster.Query} {session next : Session} {line after : Line ω}
    {outcome : Except Fault query.Answer}
    (came : inquire client query ⟨session, line⟩ = (outcome, ⟨next, after⟩)) :
    (channel client).answer query session line = (outcome, next, after) := by
  simp only [channel, came]

/-- A question is answered by the requests that are sent for it. -/
theorem ask_of_inquire (query : Cluster.Query) {session : Session} {line after : Line ω}
    {outcome : Except Fault query.Answer} (journal : Cluster.Journal)
    (came : inquire client query ⟨session, line⟩ = (outcome, ⟨session, after⟩)) :
    (channel client).ask query ⟨session, line, journal⟩ =
      (outcome, ⟨session, after, journal.record (.asked query outcome)⟩) := by
  simp only [Cluster.Channel.ask, answer_of_inquire came]

end Clearance.Rest
