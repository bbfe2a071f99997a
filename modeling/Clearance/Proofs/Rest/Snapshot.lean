import Clearance.Proofs.Cluster.Visit
import Clearance.Proofs.Rest.Listing
import Clearance.Proofs.Text.Percent

/-!
# One description of the nodes for a session

A session may be asked anything in any order, be closed at any time and go on to be asked, and the
world behind its client may be another one from each question to the next. Until the cluster has
described its nodes, every question for nodes goes to the cluster and leaves nothing behind when it
fails, at whatever stage. From then on the description that was read is the only one there is: it
answers all questions for nodes, and the cluster is not asked for another one.

Results:
1. `ForNodes`, `not_forNodes`: which requests ask for the nodes; no other question makes one of
   them, whatever the name of an index is.
2. `Went`, `went`: what a question comes to, what goes out for it, and what the session keeps of it.
3. `turns_keep`: what a session keeps from question to question; `turns_recall`, `turns_unknown`:
   all questions of a session that knows the nodes, and of one that does not.
4. `one_description`: all questions of a session, whatever happens meanwhile.
-/

namespace Clearance

namespace Rest

open Cluster (Exchange Query)
open Http (Client Method Request Response)
open Json (Members)
open Text (Glyph)

/-! ## Requests for the nodes -/

/-- The request is one for the nodes, by its method and the end of its URL. -/
def ForNodes (r : Request) : Prop :=
  r.method = .get ∧ "/_nodes/http".toList <:+ r.url.toList

theorem forNodes_requestTo (session : Session) (node : String) :
    ForNodes (session.requestTo .get "/_nodes/http" node) := by
  refine ⟨rfl, ?_⟩
  show "/_nodes/http".toList <:+ (_ ++ "/_nodes/http").toList
  rw [String.toList_append]
  exact List.suffix_append _ _

/-- What stands behind the last slash of the URL, and what stands before it. -/
theorem parts_of_nodes {stem segment : List Char} (slashless : '/' ∉ segment)
    (nodes : "/_nodes/http".toList <:+ stem ++ '/' :: segment) :
    segment = ['h', 't', 't', 'p'] ∧
      ∃ front, stem.splitOn '/' = front ++ [['_', 'n', 'o', 'd', 'e', 's']] := by
  obtain ⟨front, whole⟩ := nodes
  have parts : (front ++ "/_nodes/http".toList).splitOn '/' =
      front.splitOn '/' ++ [['_', 'n', 'o', 'd', 'e', 's']] ++ [['h', 't', 't', 'p']] := by
    have letters : front ++ "/_nodes/http".toList =
        (front ++ '/' :: ['_', 'n', 'o', 'd', 'e', 's']) ++ '/' :: ['h', 't', 't', 'p'] := by simp
    have nodesPlain : '/' ∉ ['_', 'n', 'o', 'd', 'e', 's'] := by decide
    have httpPlain : '/' ∉ ['h', 't', 't', 'p'] := by decide
    rw [letters, List.splitOn_append_cons_self, List.splitOn_append_cons_self,
      List.splitOn_eq_singleton nodesPlain, List.splitOn_eq_singleton httpPlain]
  rw [whole, List.splitOn_append_cons_self, List.splitOn_eq_singleton slashless] at parts
  obtain ⟨before, last⟩ := List.append_inj' parts rfl
  cases last
  exact ⟨rfl, _, before⟩

theorem not_forNodes {session : Session} {query : Query} (other : ∀ role, query ≠ .nodes role)
    (node : String) :
    ¬ ForNodes (session.requestTo (putBy query).1 (putBy query).2 node) := by
  rintro ⟨method, nodes⟩
  have url (path : String) :
      (session.url path node).toList = (session.url "" node).toList ++ path.toList := by
    simp [Session.url]
  cases query with
  | nodes role => exact other role rfl
  | presence index => cases method
  | name | version =>
    have nodes : _ <:+ (session.url "/" node).toList := nodes
    rw [url] at nodes
    cases (parts_of_nodes List.not_mem_nil nodes).1
  | health index =>
    have nodes : _ <:+
      (session.url ("/_cluster/health/" ++ Text.Percent.segment index) node).toList := nodes
    have stem : "/_cluster/health/".toList =
        "/_cluster".toList ++ '/' :: ['h', 'e', 'a', 'l', 't', 'h'] ++ ['/'] := by decide
    have letters : (session.url "" node).toList ++
          ("/_cluster".toList ++ '/' :: ['h', 'e', 'a', 'l', 't', 'h'] ++ ['/'] ++
            (Text.Percent.segment index).toList) =
        ((session.url "" node).toList ++ "/_cluster".toList) ++
          '/' :: ['h', 'e', 'a', 'l', 't', 'h'] ++ '/' :: (Text.Percent.segment index).toList := by
      simp only [List.append_assoc, List.cons_append, List.nil_append]
    rw [url, String.toList_append, stem, letters] at nodes
    have slashless : '/' ∉ (Text.Percent.segment index).toList := by
      rw [Text.Percent.segment, String.toList_ofList]
      exact Text.Percent.slash_not_mem_encode index.toList
    obtain ⟨-, front, parts⟩ := parts_of_nodes slashless nodes
    have healthPlain : '/' ∉ ['h', 'e', 'a', 'l', 't', 'h'] := by decide
    rw [List.splitOn_append_cons_self, List.splitOn_eq_singleton healthPlain] at parts
    cases (List.append_inj' parts rfl).2

/-! ## One question -/

section Question

variable {ω α : Type} {client : Client ω} {session : Session} {world : ω}

/-- The response has status 200 and holds an object about nodes, whose descriptions can all be read
and list these addresses for the roles. -/
def DescribedIn (response : Response) (told : Role → List String) : Prop :=
  ∃ document descriptions, Holds response document ∧
    Members.get? (Glyph.ofString "nodes") document = some (.object descriptions) ∧
    (∀ fault, ¬ FirstFlawed descriptions fault) ∧ ListedByRole descriptions told

theorem read_iff_unflawed {descriptions : Members} :
    (∃ nodes, Node.ofDocuments descriptions = .ok nodes) ↔
      ∀ fault, ¬ FirstFlawed descriptions fault := by
  cases read : Node.ofDocuments descriptions with
  | ok nodes =>
    refine ⟨fun _ fault flawed => ?_, fun _ => ⟨nodes, rfl⟩⟩
    cases read.symm.trans (ofDocuments_eq_error.mpr flawed)
  | error fault => exact ⟨nofun, fun fine => absurd (ofDocuments_eq_error.mp read) (fine fault)⟩

theorem nodesOf_of_given {document descriptions : Members} {nodes : List Node}
    (given : Members.get? (Glyph.ofString "nodes") document = some (.object descriptions)) :
    nodesOf document = .ok nodes ↔ Node.ofDocuments descriptions = .ok nodes := by
  rw [nodesOf, given]
  exact mapError_eq_ok

theorem given_of_nodesOf {document : Members} {nodes : List Node}
    (read : nodesOf document = .ok nodes) :
    ∃ descriptions,
      Members.get? (Glyph.ofString "nodes") document = some (.object descriptions) := by
  unfold nodesOf at read
  split at read
  · next descriptions given => exact ⟨descriptions, given⟩
  · cases read

/-- What is read from a response is what it describes. -/
theorem describedIn_of_read {response : Response} {document : Members} {nodes : List Node}
    (holds : Holds response document) (read : nodesOf document = .ok nodes) :
    DescribedIn response (Node.addresses nodes) := by
  obtain ⟨descriptions, given⟩ := given_of_nodesOf read
  have documents := (nodesOf_of_given given).mp read
  exact ⟨document, descriptions, holds, given, read_iff_unflawed.mp ⟨nodes, documents⟩,
    listedByRole_of_read documents⟩

/-- The cluster is asked for its nodes in vain: the request for them is handed to the client for the
nodes of the session until one answers, and the answer, if there is one, describes no nodes. -/
def AsksInVain (client : Client ω) (session : Session) (world : ω) (sent : List Request) : Prop :=
  ∃ finish after,
    Tried client session .get "/_nodes/http" session.nodes world sent finish after ∧
      ∀ response told, finish = .answered response → ¬ DescribedIn response told

/-- What a question to a session comes to: the exchange, all that goes out for it, and the session
afterwards. -/
inductive Went (client : Client ω) (session : Session) (world : ω) :
    Exchange → List Request → Session → Prop
  /-- The nodes are known. They are told without a request. -/
  | recalled {role : Role} {described : List Node} (known : session.known = some described) :
    Went client session world ⟨.nodes role, .ok (Node.addresses described role)⟩ [] session
  /-- The nodes are not known, and the first node that answers describes all of them. The
  description is kept. -/
  | learnt {role : Role} {sent : List Request} {response : Response} {after : ω}
      {described : List Node} (unknown : session.known = none)
      (answer : FirstAnswer client session .get "/_nodes/http" world sent response after)
      (good : DescribedIn response (Node.addresses described)) :
    Went client session world ⟨.nodes role, .ok (Node.addresses described role)⟩ sent
      { session with known := some described }
  /-- The nodes are not known, and the cluster is asked for them in vain. Nothing is kept. -/
  | vain {role : Role} {fault : Fault} {sent : List Request} (unknown : session.known = none)
      (asked : AsksInVain client session world sent) :
    Went client session world ⟨.nodes role, .error fault⟩ sent session
  /-- Something else is asked. No request for nodes goes out. -/
  | aside {e : Exchange} {sent : List Request} (other : ∀ role, e.query ≠ .nodes role)
      (elsewhere : ∀ r ∈ sent, ¬ ForNodes r) : Went client session world e sent session

theorem went_nodes (unknown : session.known = none) (role : Role) :
    ∃ outcome next after sent,
      inquire client (.nodes role) ⟨session, ⟨world, []⟩⟩ = (outcome, ⟨next, ⟨after, sent⟩⟩) ∧
      Went client session world ⟨.nodes role, outcome⟩ sent next := by
  obtain ⟨sent, finish, after, tried⟩ :=
    Tried.total client session .get "/_nodes/http" session.nodes world
  obtain ⟨outcome, came, learned⟩ := Learns.fetch "/_nodes/http" _ _ _ _ tried []
  have told := addressesOf_fetched unknown came role
  -- The question fails if the fetching does, or else if one of the nodes cannot be read.
  cases read : outcome.bind nodesOf with
  | error fault =>
    rw [read] at told
    refine ⟨_, _, _, _, told, .vain unknown ⟨finish, after, tried, ?_⟩⟩
    rintro response told' same ⟨document, descriptions, holds, given, fine, -⟩
    have fetched := (learned.told document).mpr ⟨response, same, holds⟩
    rw [fetched] at read
    obtain ⟨nodes, documents⟩ := read_iff_unflawed.mpr fine
    exact absurd (((nodesOf_of_given given).mpr documents).symm.trans read) ok_ne_error
  | ok described =>
    rw [read] at told
    cases outcome with
    | error fault => cases read
    | ok document =>
      obtain ⟨response, answered, holds⟩ := (learned.told document).mp rfl
      subst answered
      exact ⟨_, _, _, _, told, .learnt unknown tried (describedIn_of_read holds read)⟩

theorem went_aside {query : Query} (other : ∀ role, query ≠ .nodes role) :
    ∃ outcome next after sent,
      inquire client query ⟨session, ⟨world, []⟩⟩ = (outcome, ⟨next, ⟨after, sent⟩⟩) ∧
      Went client session world ⟨query, outcome⟩ sent next := by
  obtain ⟨sent, finish, after, tried⟩ :=
    Tried.total client session (putBy query).1 (putBy query).2 session.nodes world
  obtain ⟨outcome, came, -⟩ := learns_said other _ _ _ _ tried []
  refine ⟨outcome, session, after, sent, came, .aside other fun r present => ?_⟩
  obtain ⟨node, -, rfl⟩ := tried.sent_to r present
  exact not_forNodes other node

/-- Every question goes one of the four ways. -/
theorem went (client : Client ω) (session : Session) (world : ω) (query : Query) :
    ∃ outcome next after sent,
      (channel client).answer query session ⟨world, []⟩ = (outcome, next, ⟨after, sent⟩) ∧
      Went client session world ⟨query, outcome⟩ sent next := by
  suffices inquired : ∃ outcome next after sent,
      inquire client query ⟨session, ⟨world, []⟩⟩ = (outcome, ⟨next, ⟨after, sent⟩⟩) ∧
      Went client session world ⟨query, outcome⟩ sent next by
    obtain ⟨outcome, next, after, sent, came, went⟩ := inquired
    exact ⟨outcome, next, after, sent, answer_of_inquire came, went⟩
  by_cases forNodes : ∃ role, query = .nodes role
  · obtain ⟨role, rfl⟩ := forNodes
    cases known : session.known with
    | none => exact went_nodes known role
    | some described =>
      have known' : (Call.mk session (Line.mk world [])).session.known = some described := known
      exact ⟨_, _, _, _, addressesOf_known known' role, .recalled known⟩
  · exact went_aside fun role same => forNodes ⟨role, same⟩

end Question

/-! ## All questions -/

/-- Something that is done with a session, or that happens to the world behind its client. -/
inductive Use (ω : Type) where
  | ask (query : Query)
  | close
  | elapse (world : ω)

/-- A question that was put to a session. -/
structure Turn (ω : Type) where
  /-- The session and the world as the question found them. -/
  session : Session
  world : ω
  exchange : Exchange
  /-- All that went out for the question. -/
  sent : List Request
  /-- The session as the question left it. -/
  left : Session

variable {ω : Type} {client : Client ω}

/-- The questions that are put to a session, in order. -/
def turns (client : Client ω) : Session → ω → List (Use ω) → List (Turn ω)
  | _, _, [] => []
  | session, _, .elapse world :: later => turns client session world later
  | session, world, .close :: later =>
    let (closed, line) := (channel client).stop session ⟨world, []⟩
    turns client closed line.world later
  | session, world, .ask query :: later =>
    let (outcome, next, line) := (channel client).answer query session ⟨world, []⟩
    ⟨session, world, ⟨query, outcome⟩, line.sent, next⟩ :: turns client next line.world later

namespace Turn

/-- The nodes were not known and the cluster was asked for them, in vain. Nothing was kept. -/
def Vain (client : Client ω) (turn : Turn ω) : Prop :=
  ∃ role fault, turn.exchange = ⟨.nodes role, .error fault⟩ ∧ turn.session.known = none ∧
    AsksInVain client turn.session turn.world turn.sent ∧ turn.left = turn.session

/-- The nodes were not known and the cluster was asked for them, and the first node that answered
described them, so that these addresses are told for the roles. The description was kept, and
nothing else. -/
def Fetches (client : Client ω) (told : Role → List String) (turn : Turn ω) : Prop :=
  ∃ role response after, turn.exchange = ⟨.nodes role, .ok (told role)⟩ ∧
    turn.session.known = none ∧
    FirstAnswer client turn.session .get "/_nodes/http" turn.world turn.sent response after ∧
    DescribedIn response told ∧
    ∃ described, turn.left = { turn.session with known := some described }

/-- The nodes were told as they had been described, and nothing went out. -/
def Recalls (told : Role → List String) (turn : Turn ω) : Prop :=
  ∃ role, turn.exchange = ⟨.nodes role, .ok (told role)⟩ ∧ turn.sent = [] ∧
    turn.left = turn.session

/-- Something else was asked, no request for nodes went out, and nothing was kept. -/
def Aside (turn : Turn ω) : Prop :=
  (∀ role, turn.exchange.query ≠ .nodes role) ∧ (∀ r ∈ turn.sent, ¬ ForNodes r) ∧
    turn.left = turn.session

end Turn

/-- The cluster was asked for its nodes in vain, each time anew, until it described them, if it ever
did. That description was told from then on. -/
def DescribedOnce (client : Client ω) (story : List (Turn ω)) : Prop :=
  (∀ turn ∈ story, turn.Vain client ∨ turn.Aside) ∨
    ∃ before first after told, story = before ++ first :: after ∧
      (∀ turn ∈ before, turn.Vain client ∨ turn.Aside) ∧ first.Fetches client told ∧
      ∀ turn ∈ after, turn.Recalls told ∨ turn.Aside

/-- A question for the nodes of a role was answered in this way. -/
def Told (story : List (Turn ω)) (role : Role) (found : List String) : Prop :=
  ∃ turn ∈ story, turn.exchange = ⟨.nodes role, .ok found⟩

section Story

variable {session : Session} {world : ω} {uses : List (Use ω)}

theorem turns_ask {query : Query} {outcome : Except Fault query.Answer} {next : Session}
    {after : ω} {sent : List Request} {later : List (Use ω)}
    (came : (channel client).answer query session ⟨world, []⟩ = (outcome, next, ⟨after, sent⟩)) :
    turns client session world (.ask query :: later) =
      ⟨session, world, ⟨query, outcome⟩, sent, next⟩ :: turns client next after later := by
  rw [turns, came]

/-- What a session keeps, whether it is asked or closed, it keeps for all questions. -/
theorem turns_keep (keeps : Session → Prop) {holds : Turn ω → Prop}
    (closing : ∀ {s}, keeps s → keeps { s with isClosed := true })
    (asking : ∀ {s world e sent next}, keeps s → Went client s world e sent next →
      holds ⟨s, world, e, sent, next⟩ ∧ keeps next)
    (begun : keeps session) : ∀ turn ∈ turns client session world uses, holds turn := by
  induction uses generalizing session world with
  | nil => exact fun _ present => absurd present List.not_mem_nil
  | cons use later ih =>
    cases use with
    | elapse world => exact ih begun
    | close =>
      rw [turns]
      exact ih (closing begun)
    | ask query =>
      obtain ⟨outcome, next, after, sent, came, went⟩ := went client session world query
      obtain ⟨now, kept⟩ := asking begun went
      rw [turns_ask came]
      exact List.forall_mem_cons.mpr ⟨now, ih kept⟩

/-- A session remains the one that was opened, apart from what it knows and whether it is closed. -/
theorem turns_session :
    ∀ turn ∈ turns client session world uses, turn.session =
      { session with known := turn.session.known, isClosed := turn.session.isClosed } := by
  refine turns_keep (fun s => ∃ known isClosed, s = { session with known, isClosed }) ?_ ?_
    ⟨session.known, session.isClosed, rfl⟩
  · rintro _ ⟨known, _, rfl⟩
    exact ⟨known, true, rfl⟩
  · rintro _ world e sent next ⟨known, isClosed, rfl⟩ went
    refine ⟨rfl, ?_⟩
    cases went <;> exact ⟨_, isClosed, rfl⟩

/-- A session that knows the nodes tells them, and never asks for them again. -/
theorem turns_recall {described : List Node} (known : session.known = some described) :
    ∀ turn ∈ turns client session world uses,
      turn.Recalls (Node.addresses described) ∨ turn.Aside := by
  refine turns_keep (fun s => s.known = some described) id (fun known went => ?_) known
  cases went with
  | @recalled role _ own =>
    cases known.symm.trans own
    exact ⟨.inl ⟨role, rfl, rfl, rfl⟩, known⟩
  | learnt unknown | vain unknown => cases known.symm.trans unknown
  | aside other elsewhere => exact ⟨.inr ⟨other, elsewhere, rfl⟩, known⟩

theorem DescribedOnce.cons {turn : Turn ω} {story : List (Turn ω)}
    (once : DescribedOnce client story) (untold : turn.Vain client ∨ turn.Aside) :
    DescribedOnce client (turn :: story) := by
  rcases once with never | ⟨before, first, after, told, rfl, vain, fetches, recalled⟩
  · exact .inl (List.forall_mem_cons.mpr ⟨untold, never⟩)
  · exact .inr ⟨turn :: before, first, after, told, rfl,
      List.forall_mem_cons.mpr ⟨untold, vain⟩, fetches, recalled⟩

theorem turns_unknown (unknown : session.known = none) :
    DescribedOnce client (turns client session world uses) := by
  induction uses generalizing session world with
  | nil => exact .inl fun _ present => absurd present List.not_mem_nil
  | cons use later ih =>
    cases use with
    | elapse world => exact ih unknown
    | close =>
      rw [turns]
      exact ih unknown
    | ask query =>
      obtain ⟨outcome, next, after, sent, came, went⟩ := went client session world query
      rw [turns_ask came]
      cases went with
      | recalled known => cases unknown.symm.trans known
      | @learnt role _ response answered described _ answer good =>
        refine .inr ⟨[], _, _, Node.addresses described, rfl,
          fun _ present => absurd present List.not_mem_nil,
          ⟨role, response, answered, rfl, unknown, answer, good, described, rfl⟩, ?_⟩
        exact turns_recall rfl
      | @vain role fault _ _ asked =>
        exact (ih unknown).cons (.inl ⟨role, fault, rfl, unknown, asked, rfl⟩)
      | aside other elsewhere => exact (ih unknown).cons (.inr ⟨other, elsewhere, rfl⟩)

/-- Whatever was told about nodes was read in one description. -/
theorem DescribedOnce.told {story : List (Turn ω)} (once : DescribedOnce client story) :
    ∃ told : Role → List String,
      (∀ role found, Told story role found → found = told role) ∧
      ∀ role, ∀ a ∈ told role, a ∈ told .any := by
  have untold {turn : Turn ω} {role : Role} {found : List String}
      (same : turn.exchange = ⟨.nodes role, .ok found⟩) : ¬ (turn.Vain client ∨ turn.Aside) := by
    rintro (⟨_, _, failed, -⟩ | ⟨other, -⟩)
    · cases same.symm.trans failed
    · exact other role (congrArg Exchange.query same)
  rcases once with never | ⟨before, first, after, told, rfl, vain, fetches, recalled⟩
  · refine ⟨fun _ => [], ?_, fun _ _ present => present⟩
    rintro role found ⟨turn, present, same⟩
    exact absurd (never turn present) (untold same)
  · obtain ⟨_, _, _, own, -, -, ⟨_, _, -, -, -, listed⟩, -⟩ := fetches
    refine ⟨told, ?_, listed.among⟩
    rintro role found ⟨turn, present, same⟩
    rcases List.mem_append.mp present with present | present
    · exact absurd (vain turn present) (untold same)
    · rcases List.mem_cons.mp present with rfl | present
      · cases same.symm.trans own
        rfl
      · rcases recalled turn present with ⟨_, own, -⟩ | ⟨other, -⟩
        · cases same.symm.trans own
          rfl
        · exact absurd (congrArg Exchange.query same) (other role)

/-- Where the client takes it, a request for the nodes goes out. -/
theorem Turn.Vain.sends {turn : Turn ω} (vain : turn.Vain client)
    (able : turn.session.CanSend client .get "/_nodes/http") : ∃ r ∈ turn.sent, ForNodes r := by
  obtain ⟨-, -, -, -, ⟨finish, after, tried, -⟩, -⟩ := vain
  obtain ⟨steady, node, listed, goes⟩ := able
  obtain ⟨r, others, sent⟩ := List.exists_cons_of_ne_nil (tried.sent_ne_nil steady listed goes)
  have present : r ∈ turn.sent := by rw [sent]; exact List.mem_cons_self
  obtain ⟨other, -, rfl⟩ := tried.sent_to r present
  exact ⟨_, present, forNodes_requestTo turn.session other⟩

end Story

/-- Whatever is done with a session, and whatever becomes of the world: until the cluster describes
its nodes every question for them is put to it and leaves nothing behind; from then on they are told
without a request, by the one description that was read. So what is told for a role is told for any
role. -/
theorem one_description (client : Client ω) (nodes : List String) (tls : Bool)
    (credentials : Option (String × String)) (timeout : Float) (world : ω) (uses : List (Use ω)) :
    let session : Session := { nodes, tls, credentials, timeout }
    let story := turns client session world uses
    DescribedOnce client story ∧
    (∀ turn ∈ story, turn.session =
      { session with known := turn.session.known, isClosed := turn.session.isClosed }) ∧
    (∀ turn ∈ story, turn.Vain client → turn.session.CanSend client .get "/_nodes/http" →
      ∃ r ∈ turn.sent, ForNodes r) ∧
    ∀ role found all, Told story role found → Told story .any all → ∀ a ∈ found, a ∈ all := by
  intro session story
  have once : DescribedOnce client story := turns_unknown rfl
  refine ⟨once, turns_session, fun turn _ vain able => vain.sends able, ?_⟩
  obtain ⟨told, same, among⟩ := once.told
  intro role found all forRole forAny a present
  rw [same role found forRole] at present
  rw [same .any all forAny]
  exact among role a present

end Rest

end Clearance
