import Clearance.Proofs.Cluster.Session
import Clearance.Proofs.Rest.Statement

/-!
# What is sent in a session

In a session over REST every question comes to one search from node to node, or to none where the
nodes are known already. So all that goes out goes to nodes of the session, and what is told about
the nodes of the cluster stands in an answer that one of them gave.

Results:
1. `Search`, `Searched`: the searches of a session.
2. `inquire_inquired`: what a question comes to.
3. `held_searched`, `sessions_ordinary`: what the questions of a session come to, and that a session
   complains of nothing else than the way to the nodes, the shape of what they tell, and what its
   open client raises.
4. `Outings`, `outings_of_sessions`: visits with all that went out in them.
5. `Outings.sent_to_node`, `Outings.published`: where it went, and where the nodes that were told
   had been published.
-/

namespace Clearance.Rest

open Cluster (Exchange Held Query Sessions Visit)
open Http (Client Method Request Response)

variable {ω α : Type} {client : Client ω}

/-! ## Searches -/

/-- A request from node to node: all that went out, and how the search ended. -/
structure Search where
  method : Method
  path : String
  sent : List Request
  finish : Finish

/-- The searches of a session one after the other, in a world that they lead to another one. -/
inductive Searched (client : Client ω) (session : Session) : ω → List Search → ω → Prop
  | none {world : ω} : Searched client session world [] world
  | search {search : Search} {rest : List Search} {world between after : ω} (query : Query)
      (asked : (search.method, search.path) = putBy query)
      (tried : Tried client session search.method search.path session.nodes world search.sent
        search.finish between)
      (later : Searched client session between rest after) :
      Searched client session world (search :: rest) after

/-- All that went out in some searches. -/
def allSent (searches : List Search) : List Request :=
  searches.flatMap Search.sent

/-- The answer describes these nodes: it has status 200 and holds an object about them. -/
def Search.Describes (search : Search) (nodes : List Node) : Prop :=
  search.path = "/_nodes/http" ∧ ∃ response document,
    search.finish = .answered response ∧ response.status = 200 ∧
      Json.readBytes response.body = some (.object document) ∧ nodesOf document = .ok nodes

/-- What a session knows has no part in its searches. -/
theorem Tried.forget {session : Session} {known : Option (List Node)} {method : Method}
    {path : String} {nodes : List String} {world after : ω} {sent : List Request} {finish : Finish}
    (tried : Tried client { session with known } method path nodes world sent finish after) :
    Tried client session method path nodes world sent finish after := by
  induction tried with
  | nobody => exact .nobody
  | failed lost _ ih => exact .failed lost ih
  | answered answer => exact .answered answer
  | raised broke => exact .raised broke

namespace Searched

variable {session : Session} {world between after : ω} {searches more : List Search}

theorem append (first : Searched client session world searches between)
    (second : Searched client session between more after) :
    Searched client session world (searches ++ more) after := by
  induction first with
  | none => exact second
  | search query asked tried _ ih => exact .search query asked tried (ih second)

theorem forget {known : Option (List Node)}
    (searched : Searched client { session with known } world searches after) :
    Searched client session world searches after := by
  induction searched with
  | none => exact .none
  | search query asked tried _ ih => exact .search query asked tried.forget ih

end Searched

/-- The request goes to a node: its URL consists of a scheme, the text of the node, and the path of
a question. -/
def GoesTo (r : Request) (node : String) : Prop :=
  ∃ (tls : Bool) (query : Query), r.method = (putBy query).1 ∧
    r.url = (if tls then "https" else "http") ++ "://" ++ node ++ (putBy query).2

/-- All requests of the searches go to nodes of their session. -/
theorem sent_to_node {session : Session} {world after : ω} {searches : List Search}
    (searched : Searched client session world searches after) {r : Request}
    (present : r ∈ allSent searches) : ∃ node ∈ session.nodes, GoesTo r node := by
  induction searched with
  | none => exact absurd present List.not_mem_nil
  | @search search rest world between after query asked tried _ ih =>
    rw [allSent, List.flatMap_cons] at present
    rcases List.mem_append.mp present with present | present
    · obtain ⟨node, listed, rfl⟩ := tried.sent_to r present
      refine ⟨node, listed, session.tls, query, congrArg Prod.fst asked, ?_⟩
      rw [← asked]
      rfl
    · exact ih present

/-! ## Questions -/

/-- The fault is one that a question in an open session comes to: one of transport, one that the
client raises, or one of shape. -/
def Ordinary (client : Client ω) (fault : Fault) : Prop :=
  (OfTransport fault ∨ Foreign client false fault) ∨ ∃ own, fault = .shape own

/-- The nodes were known before, or an answer to one of the searches describes them. -/
def Learnt (before : Option (List Node)) (searches : List Search) (nodes : List Node) : Prop :=
  before = some nodes ∨ ∃ search ∈ searches, search.Describes nodes

/-- Some searches were made, and what the session knows of the nodes was learnt in them, unless it
was known before. -/
structure Made (client : Client ω) (call : Call ω) (searches : List Search) (after : Call ω) :
    Prop where
  searched : Searched client call.session call.line.world searches after.line.world
  sent : after.line.sent = call.line.sent ++ allSent searches
  kept : after.session = { call.session with known := after.session.known }
  known : ∀ {nodes}, after.session.known = some nodes →
    Learnt call.session.known searches nodes

theorem Made.learnt {call next : Call ω} {searches more : List Search}
    (first : Made client call searches next) {nodes : List Node}
    (later : Learnt next.session.known more nodes) :
    Learnt call.session.known (searches ++ more) nodes := by
  rcases later with known | ⟨search, present, describes⟩
  · rcases first.known known with before | ⟨search, present, describes⟩
    · exact .inl before
    · exact .inr ⟨search, List.mem_append_left _ present, describes⟩
  · exact .inr ⟨search, List.mem_append_right _ present, describes⟩

theorem Made.nothing (call : Call ω) : Made client call [] call where
  searched := .none
  sent := (List.append_nil _).symm
  kept := rfl
  known := .inl

theorem Made.append {call next after : Call ω} {searches more : List Search}
    (first : Made client call searches next) (second : Made client next more after) :
    Made client call (searches ++ more) after where
  searched := by
    refine first.searched.append ?_
    have later := second.searched
    rw [first.kept] at later
    exact later.forget
  sent := by
    rw [second.sent, first.sent, allSent, allSent, allSent, List.flatMap_append,
      List.append_assoc]
  kept := by
    rw [second.kept, first.kept]
  known known := first.learnt (second.known known)

/-- An attempt that consists of one request makes one search, and learns what its answer tells. -/
theorem Learns.made {call : Call ω} {query : Query} {x : Attempt (Call ω) α}
    {tells : Response → α → Prop}
    (learns : Learns client call.session (putBy query).1 (putBy query).2 x tells) :
    ∃ search, search.path = (putBy query).2 ∧ Made client call [search] (x call).2 ∧
      (x call).2.session = call.session ∧ Learned search.finish (x call).1 tells ∧
      ∀ fault, search.finish = .raised fault → client.Raises call.session.isClosed fault := by
  obtain ⟨session, world, before⟩ := call
  obtain ⟨sent, finish, after, tried⟩ :=
    Tried.total client session (putBy query).1 (putBy query).2 session.nodes world
  obtain ⟨outcome, came, learned⟩ := learns _ _ _ _ tried before
  refine ⟨⟨(putBy query).1, (putBy query).2, sent, finish⟩, rfl, ?_, by rw [came],
    by rw [came]; exact learned, fun fault broken => ?_⟩
  · rw [came]
    exact ⟨.search query rfl tried .none, by simp [allSent], rfl, .inl⟩
  · cases broken
    exact tried.raises

/-- Where the client is open, nothing is learned but by an ordinary fault. -/
theorem Learned.ordinary {finish : Finish} {outcome : Except Fault α} {tells : Response → α → Prop}
    (learned : Learned finish outcome tells)
    (raises : ∀ fault, finish = .raised fault → client.Raises false fault) {fault : Fault}
    (failed : outcome = .error fault) : Ordinary client fault := by
  rcases learned.untold failed with transport | ⟨own, rfl⟩
  · exact .inl (.inl transport)
  · exact .inl (.inr ⟨own, rfl, raises own ((learned.raised own).mp failed)⟩)

/-- What was told about nodes comes from the descriptions that are known. -/
def Backed (known : Option (List Node)) : Exchange → Prop
  | ⟨.nodes role, .ok found⟩ => ∃ nodes, known = some nodes ∧ Node.addresses nodes role = found
  | _ => True

/-- A question was put to a session: with searches, and with an outcome that its answers explain. -/
structure Inquired (client : Client ω) (call : Call ω) (query : Query) (searches : List Search)
    (result : Except Fault query.Answer × Call ω) : Prop where
  made : Made client call searches result.2
  ordinary : ∀ {fault}, result.1 = .error fault → Ordinary client fault
  backed : Backed result.2.session.known ⟨query, result.1⟩

section Open

variable {call : Call ω} (unclosed : call.session.isClosed = false)
include unclosed

/-- The nodes of the cluster are known, or they are described in the answer to one search. -/
theorem clusterNodes_made (client : Client ω) :
    ∃ searches, Made client call searches (clusterNodes client call).2 ∧
      (∀ {fault}, (clusterNodes client call).1 = .error fault → Ordinary client fault) ∧
      ∀ {nodes}, (clusterNodes client call).1 = .ok nodes →
        (clusterNodes client call).2.session.known = some nodes := by
  cases known : call.session.known with
  | some nodes =>
    rw [clusterNodes_known known]
    refine ⟨[], .nothing call, fun failed => absurd failed ok_ne_error, fun same => ?_⟩
    cases same
    exact known
  | none =>
    have learns : Learns client call.session (putBy (.nodes .any)).1 (putBy (.nodes .any)).2
        (fetch client "/_nodes/http") _ := Learns.fetch "/_nodes/http"
    obtain ⟨search, path, made, session, learned, raises⟩ := learns.made
    rw [unclosed] at raises
    rcases fetched : fetch client "/_nodes/http" call with ⟨outcome, next⟩
    rw [fetched] at made learned session
    dsimp only at made learned session
    rw [clusterNodes_fetched known fetched]
    cases outcome with
    | error fault =>
      refine ⟨[search], made, fun failed => ?_, fun told => absurd told.symm ok_ne_error⟩
      cases failed
      exact learned.ordinary raises rfl
    | ok document =>
      dsimp only [Except.bind]
      cases read : nodesOf document with
      | error fault =>
        refine ⟨[search], made, fun failed => ?_, fun told => absurd told.symm ok_ne_error⟩
        cases failed
        exact (nodesOf_error read).imp_left .inl
      | ok nodes =>
        obtain ⟨response, answer, status, object⟩ := (learned.told document).mp rfl
        have describes : search.Describes nodes :=
          ⟨path, response, document, answer, status, object, read⟩
        refine ⟨[search], ⟨made.searched, made.sent, by rw [session], fun same => ?_⟩,
          fun failed => absurd failed ok_ne_error, ?_⟩
        · cases same
          exact .inr ⟨search, List.mem_singleton_self _, describes⟩
        · intro nodes same
          cases same
          rfl

theorem addressesOf_inquired (client : Client ω) (role : Role) :
    ∃ searches, Inquired client call (.nodes role) searches (addressesOf client role call) := by
  obtain ⟨searches, made, ordinary, known⟩ := clusterNodes_made unclosed client
  rw [addressesOf, Attempt.bind_pure_apply]
  refine ⟨searches, made, fun failed => ordinary (map_eq_error.mp failed), ?_⟩
  cases outcome : (clusterNodes client call).1 with
  | error fault => trivial
  | ok nodes => exact ⟨nodes, known outcome, rfl⟩

/-- Every question to an open session. -/
theorem inquire_inquired (client : Client ω) (query : Query) :
    ∃ searches, Inquired client call query searches (inquire client query call) := by
  by_cases forNodes : ∃ role, query = .nodes role
  · obtain ⟨role, rfl⟩ := forNodes
    exact addressesOf_inquired unclosed client role
  · have other : ∀ role, query ≠ .nodes role := fun role same => forNodes ⟨role, same⟩
    have learns : Learns client call.session (putBy query).1 (putBy query).2
        (inquire client query) _ := learns_said other
    obtain ⟨search, -, made, -, learned, raises⟩ := learns.made
    rw [unclosed] at raises
    refine ⟨[search], made, learned.ordinary raises, ?_⟩
    unfold Backed
    split
    · next role found same => exact absurd (congrArg Exchange.query same) (other role)
    · trivial

end Open

/-! ## Sessions -/

theorem inquire_of_answer {query : Query} {session next : Session} {line after : Line ω}
    {outcome : Except Fault query.Answer}
    (answer : (channel client).answer query session line = (outcome, next, after)) :
    inquire client query ⟨session, line⟩ = (outcome, ⟨next, after⟩) := by
  simp only [channel] at answer
  rcases came : inquire client query ⟨session, line⟩ with ⟨own, call⟩
  rw [came] at answer
  cases answer
  rfl

/-- The questions of an open session come to some searches, and what was told about nodes was learnt
there. -/
theorem held_searched {session last : Session} {line after : Line ω} {exchanges : List Exchange}
    (held : Held (channel client) session line exchanges last after)
    (unclosed : session.isClosed = false) :
    ∃ searches, Made client ⟨session, line⟩ searches ⟨last, after⟩ ∧
      (∀ e ∈ exchanges, ∀ fault, e.outcome = .error fault → Ordinary client fault) ∧
      ∀ role found, (⟨.nodes role, .ok found⟩ : Exchange) ∈ exchanges →
        ∃ nodes, Learnt session.known searches nodes ∧ Node.addresses nodes role = found := by
  induction held with
  | silent =>
    exact ⟨[], .nothing _, fun _ present => absurd present List.not_mem_nil,
      fun _ _ present => absurd present List.not_mem_nil⟩
  | @asked query outcome session next last line between after exchanges answer _ ih =>
    have open' : (Call.mk session line).session.isClosed = false := unclosed
    obtain ⟨searches, inquired⟩ := inquire_inquired open' client query
    rw [inquire_of_answer answer] at inquired
    have made : Made client ⟨session, line⟩ searches ⟨next, between⟩ := inquired.made
    have kept : next = { session with known := next.known } := made.kept
    obtain ⟨more, later, ordinary, sourced⟩ := ih (by rw [kept]; exact unclosed)
    refine ⟨searches ++ more, made.append later, fun e present fault failed => ?_,
      fun role found present => ?_⟩
    · rcases List.mem_cons.mp present with rfl | present
      · exact inquired.ordinary failed
      · exact ordinary e present fault failed
    · rcases List.mem_cons.mp present with same | present
      · have backed := inquired.backed
        rw [← same] at backed
        obtain ⟨nodes, known, told⟩ := backed
        exact ⟨nodes, made.learnt (.inl known), told⟩
      · obtain ⟨nodes, learnt, told⟩ := sourced role found present
        exact ⟨nodes, made.learnt learnt, told⟩

/-! ## Visits -/

theorem sessions_ordinary {line after : Line ω} {visits : List Visit}
    (sessions : Sessions (channel client) line visits after) {e : Exchange}
    (present : e ∈ visits.flatMap Visit.exchanges) {fault : Fault}
    (failed : e.outcome = .error fault) : Ordinary client fault := by
  induction sessions with
  | none => exact absurd present List.not_mem_nil
  | visit held _ ih =>
    obtain ⟨searches, -, ordinary, -⟩ := held_searched held rfl
    rcases List.mem_append.mp present with present | present
    · exact ordinary e present fault failed
    · exact ih present

/-- A visit with the searches that its questions came to. -/
structure Outing where
  visit : Visit
  searches : List Search

/-- All that was sent in an outing. -/
def Outing.sent (outing : Outing) : List Request :=
  allSent outing.searches

/-- In the outing an answer describes nodes of which these are the addresses for a role. -/
def Outing.Publishes (outing : Outing) (role : Role) (found : List String) : Prop :=
  ∃ search ∈ outing.searches, ∃ nodes, search.Describes nodes ∧ Node.addresses nodes role = found

/-- The outings follow each other in a world. Each of them has a session of its own, and what was
told about nodes in it was published in it. -/
inductive Outings (client : Client ω) : ω → List Outing → ω → Prop
  | none {world : ω} : Outings client world [] world
  | outing {settings : Settings} {outing : Outing} {rest : List Outing} {world between after : ω}
      (searched : Searched client (Session.start settings outing.visit.nodes) world outing.searches
        between)
      (published : ∀ role found, (⟨.nodes role, .ok found⟩ : Exchange) ∈ outing.visit.exchanges →
        outing.Publishes role found)
      (later : Outings client (client.close between) rest after) :
      Outings client world (outing :: rest) after

theorem outings_of_sessions {line after : Line ω} {visits : List Visit}
    (sessions : Sessions (channel client) line visits after) :
    ∃ outings, outings.map Outing.visit = visits ∧ Outings client line.world outings after.world ∧
      after.sent = line.sent ++ outings.flatMap Outing.sent := by
  induction sessions with
  | none => exact ⟨[], rfl, .none, (List.append_nil _).symm⟩
  | @visit settings nodes exchanges rest last line between after held _ ih =>
    obtain ⟨searches, made, -, learnt⟩ := held_searched held rfl
    obtain ⟨outings, visits, later, sent⟩ := ih
    refine ⟨⟨⟨nodes, exchanges⟩, searches⟩ :: outings, by rw [List.map_cons, visits],
      .outing made.searched (fun role found present => ?_) later, ?_⟩
    · -- The session begins without any knowledge.
      obtain ⟨own, known | described, told⟩ := learnt role found present
      · cases known
      · obtain ⟨search, present, describes⟩ := described
        exact ⟨search, present, own, describes, told⟩
    · have first : ((channel client).stop last between).2.sent = line.sent ++ allSent searches :=
        made.sent
      rw [sent, first, List.flatMap_cons, List.append_assoc]
      rfl

/-- All requests of the outings go to nodes of their visits. -/
theorem Outings.sent_to_node {world after : ω} {outings : List Outing}
    (outings' : Outings client world outings after) {outing : Outing} (present : outing ∈ outings)
    {request : Request} (sent : request ∈ outing.sent) :
    ∃ node ∈ outing.visit.nodes, GoesTo request node := by
  induction outings' with
  | none => exact absurd present List.not_mem_nil
  | outing searched _ _ ih =>
    rcases List.mem_cons.mp present with rfl | present
    · exact Rest.sent_to_node searched sent
    · exact ih present

theorem Outings.published {world after : ω} {outings : List Outing}
    (outings' : Outings client world outings after) {outing : Outing} (present : outing ∈ outings)
    {role : Role} {found : List String}
    (told : (⟨.nodes role, .ok found⟩ : Exchange) ∈ outing.visit.exchanges) :
    outing.Publishes role found := by
  induction outings' with
  | none => exact absurd present List.not_mem_nil
  | outing _ published _ ih =>
    rcases List.mem_cons.mp present with rfl | present
    · exact published role found told
    · exact ih present

end Clearance.Rest
