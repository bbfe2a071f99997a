import Clearance.Fault.Message
import Clearance.Http.Script
import Clearance.Proofs.Rest.Failover
import Clearance.Proofs.Text.Quoted

/-!
# Nodes in turn

A request goes from node to node in the order of the list, and comes to every place at most once.
Whether it goes out at a place is up to the client, which may find that the URL is none. The first
node that answers ends the search, whatever its status is; if there is none, the fault lists every
node with what the client says about it. Nodes at which the client fails do not change the answer if
they are put in front of the others.

Results:
1. `Missed`, `tryNodes_of_missed`: nodes at which the client fails are passed over, and the failures
   are noted.
2. `Fares`, `fares_total`, `request_of_fares`: the ends that a request comes to.
3. `Alike`, `Missed.alike`: in worlds that answer alike, the client fails alike.
4. `tried_in_turn`: all of this for every session.
-/

namespace Clearance.Rest

open Http (Client Failure Method Reply Request Response)

variable {ω : Type} {client : Client ω} {session : Session} {method : Method} {path : String}

/-! ## Nodes that fail -/

/-- What comes of a request at each of the nodes is a failure, one after the other. -/
inductive Missed (replyAt : String → ω → Reply × ω) :
    List String → ω → List Failure → ω → Prop
  | nobody {world : ω} : Missed replyAt [] world [] world
  | node {node : String} {rest : List String} {world between after : ω} {failure : Failure}
      {failures : List Failure} (lost : replyAt node world = (.failed failure, between))
      (later : Missed replyAt rest between failures after) :
      Missed replyAt (node :: rest) world (failure :: failures) after

/-- Of the requests to nodes with these failures, those that had gone out, in the order of the
nodes. -/
def goneOut (session : Session) (method : Method) (path : String) (nodes : List String)
    (failures : List Failure) : List Request :=
  ((nodes.zip failures).filter (·.2.gone)).map fun place =>
    session.requestTo method path place.1

theorem goneOut_cons (node : String) (nodes : List String) (failure : Failure)
    (failures : List Failure) :
    goneOut session method path (node :: nodes) (failure :: failures) =
      (Reply.failed failure).sent (session.requestTo method path node) ++
        goneOut session method path nodes failures := by
  rcases failure with ⟨_ | _, shown⟩ <;> rfl

/-- They are requests to some of the nodes, each in its place. -/
theorem goneOut_sublist (nodes : List String) (failures : List Failure) :
    (goneOut session method path nodes failures).Sublist
      (nodes.map (session.requestTo method path)) := by
  induction nodes generalizing failures with
  | nil => exact List.Sublist.refl []
  | cons node rest ih =>
    rcases failures with _ | ⟨⟨_ | _, shown⟩, later⟩
    · exact List.nil_sublist _
    · exact (ih later).cons _
    · exact (ih later).cons_cons _

namespace Missed

variable {replyAt : String → ω → Reply × ω} {nodes others : List String} {world between after : ω}
  {failures further : List Failure}

theorem length (missed : Missed replyAt nodes world failures after) :
    failures.length = nodes.length := by
  induction missed with
  | nobody => rfl
  | node _ _ ih => simp only [List.length_cons, ih]

theorem append (first : Missed replyAt nodes world failures between)
    (second : Missed replyAt others between further after) :
    Missed replyAt (nodes ++ others) world (failures ++ further) after := by
  induction first with
  | nobody => exact second
  | node lost _ ih => exact .node lost (ih second)

end Missed

/-- The failures at some nodes as they are noted. -/
def noted (nodes : List String) (failures : List Failure) : List (String × String) :=
  nodes.zip (failures.map Failure.shown)

/-- Nodes at which the client fails are passed over: the search goes on with the nodes behind them,
with these failures noted behind the earlier ones. -/
theorem tryNodes_of_missed {nodes : List String} {world after : ω} {failures : List Failure}
    (missed : Missed (session.replyAt client method path) nodes world failures after)
    (earlier : List (String × String)) (rest : List String) (before : List Request) :
    tryNodes client session method path earlier (nodes ++ rest) ⟨session, ⟨world, before⟩⟩ =
      tryNodes client session method path (earlier ++ noted nodes failures) rest
        ⟨session, ⟨after, before ++ goneOut session method path nodes failures⟩⟩ := by
  induction missed generalizing earlier before with
  | nobody => simp [noted, goneOut]
  | node lost later ih =>
    rw [List.cons_append, tryNodes, Attempt.bind_of_ok (send_of_replyAt lost before)]
    dsimp only
    rw [ih, goneOut_cons, List.append_assoc, List.append_assoc]
    rfl

/-! ## The end of a request -/

/-- What a request comes to, with all that goes out for it and the world afterwards: there are no
nodes, or the client fails at all of them, or after it has failed at those in front one of them
answers, or the client raises something else there. -/
inductive Fares (client : Client ω) (session : Session) (method : Method) (path : String)
    (world : ω) : Except Fault Response → List Request → ω → Prop
  | deserted (nobody : session.nodes = []) :
      Fares client session method path world (.error (.transport .noNodes)) [] world
  | exhausted {failures : List Failure} {after : ω} (somebody : session.nodes ≠ [])
      (missed : Missed (session.replyAt client method path) session.nodes world failures after) :
      Fares client session method path world
        (.error (.transport (.allNodesFailed (noted session.nodes failures))))
        (goneOut session method path session.nodes failures) after
  | answered {front rest : List String} {node : String} {failures : List Failure}
      {between after : ω} {response : Response} (listed : session.nodes = front ++ node :: rest)
      (missed : Missed (session.replyAt client method path) front world failures between)
      (answer : session.replyAt client method path node between = (.answered response, after)) :
      Fares client session method path world (.ok response)
        (goneOut session method path front failures ++ [session.requestTo method path node]) after
  | broken {front rest : List String} {node : String} {failures : List Failure}
      {between after : ω} {gone : Bool} {fault : MisuseFault}
      (listed : session.nodes = front ++ node :: rest)
      (missed : Missed (session.replyAt client method path) front world failures between)
      (broke : session.replyAt client method path node between = (.raised gone fault, after)) :
      Fares client session method path world (.error (.misuse fault))
        (goneOut session method path front failures ++
          (Reply.raised gone fault).sent (session.requestTo method path node)) after

/-- Either the client fails at all nodes, or there is a first one where it does not. -/
theorem missed_or_not (replyAt : String → ω → Reply × ω) (nodes : List String) (world : ω) :
    (∃ failures after, Missed replyAt nodes world failures after) ∨
      ∃ front node rest failures between reply after,
        nodes = front ++ node :: rest ∧ Missed replyAt front world failures between ∧
        replyAt node between = (reply, after) ∧ ∀ failure, reply ≠ .failed failure := by
  induction nodes generalizing world with
  | nil => exact .inl ⟨[], world, .nobody⟩
  | cons node rest ih =>
    rcases came : replyAt node world with ⟨reply, between⟩
    by_cases lost : ∃ failure, reply = .failed failure
    · obtain ⟨failure, rfl⟩ := lost
      rcases ih between with ⟨failures, after, later⟩ |
        ⟨front, next, others, failures, last, reply, after, rfl, later, found⟩
      · exact .inl ⟨failure :: failures, after, .node came later⟩
      · exact .inr ⟨node :: front, next, others, failure :: failures, last, reply, after, rfl,
          .node came later, found⟩
    · exact .inr ⟨[], node, rest, [], world, reply, between, rfl, .nobody, came,
        fun failure same => lost ⟨failure, same⟩⟩

theorem fares_total (client : Client ω) (session : Session) (method : Method) (path : String)
    (world : ω) :
    ∃ outcome sent after, Fares client session method path world outcome sent after := by
  by_cases nobody : session.nodes = []
  · exact ⟨_, _, _, .deserted nobody⟩
  · rcases missed_or_not (session.replyAt client method path) session.nodes world with
      ⟨failures, after, missed⟩ |
      ⟨front, node, rest, failures, between, reply, after, listed, missed, came, other⟩
    · exact ⟨_, _, _, .exhausted nobody missed⟩
    · cases reply with
      | answered response => exact ⟨_, _, _, .answered listed missed came⟩
      | failed failure => exact absurd rfl (other failure)
      | raised gone fault => exact ⟨_, _, _, .broken listed missed came⟩

theorem request_of_fares {world after : ω} {outcome : Except Fault Response} {sent : List Request}
    (fares : Fares client session method path world outcome sent after)
    (before : List Request) :
    request client method path ⟨session, ⟨world, before⟩⟩ =
      (outcome, ⟨session, ⟨after, before ++ sent⟩⟩) := by
  rw [request, Attempt.bind_of_ok (Attempt.get_apply _)]
  dsimp only
  cases fares with
  | deserted nobody =>
    rw [if_pos nobody, List.append_nil]
    rfl
  | exhausted somebody missed =>
    have searched := tryNodes_of_missed missed [] [] before
    rw [List.append_nil] at searched
    rw [if_neg somebody, searched]
    rfl
  | @answered front rest node failures between _ response listed missed answer =>
    have somebody : session.nodes ≠ [] := by simp [listed]
    rw [if_neg somebody, listed, tryNodes_of_missed missed, tryNodes,
      Attempt.bind_of_ok (send_of_replyAt answer _), List.append_assoc]
    rfl
  | @broken front rest node failures between _ gone fault listed missed broke =>
    have somebody : session.nodes ≠ [] := by simp [listed]
    rw [if_neg somebody, listed, tryNodes_of_missed missed, tryNodes,
      Attempt.bind_of_ok (send_of_replyAt broke _), List.append_assoc]
    rfl

/-- The requests go to nodes at the front of the list, each in its place. -/
theorem Fares.sent_sublist {world after : ω} {outcome : Except Fault Response}
    {sent : List Request} (fares : Fares client session method path world outcome sent after) :
    ∃ tried, tried <+: session.nodes ∧
      sent.Sublist (tried.map (session.requestTo method path)) := by
  cases fares with
  | deserted nobody => exact ⟨[], List.nil_prefix, List.Sublist.refl []⟩
  | exhausted somebody missed =>
    exact ⟨session.nodes, List.prefix_rfl, goneOut_sublist session.nodes _⟩
  | @answered front rest node _ _ _ _ listed missed answer =>
    refine ⟨front ++ [node], ⟨rest, by rw [listed, List.append_assoc]; rfl⟩, ?_⟩
    rw [List.map_append]
    exact (goneOut_sublist front _).append (List.Sublist.refl _)
  | @broken front rest node _ _ _ gone _ listed missed broke =>
    refine ⟨front ++ [node], ⟨rest, by rw [listed, List.append_assoc]; rfl⟩, ?_⟩
    rw [List.map_append]
    refine (goneOut_sublist front _).append ?_
    cases gone with
    | true => exact List.Sublist.refl _
    | false => exact List.nil_sublist _

/-! ## Worlds that answer alike -/

/-- What comes of these requests if they are handed to the client one after the other. -/
def replies (client : Client ω) (closed : Bool) : List Request → ω → List Reply
  | [], _ => []
  | r :: rest, world =>
    (client.request closed r world).1 ::
      replies client closed rest (client.request closed r world).2

/-- From now on the same comes of all requests in both worlds, whatever is sent. -/
def Alike (client : Client ω) (closed : Bool) (world other : ω) : Prop :=
  ∀ requests, replies client closed requests world = replies client closed requests other

theorem Alike.step {closed : Bool} {world other after : ω} {r : Request} {reply : Reply}
    (alike : Alike client closed world other)
    (came : client.request closed r world = (reply, after)) :
    ∃ next, client.request closed r other = (reply, next) ∧ Alike client closed after next := by
  have both (rest : List Request) := List.cons.inj (alike (r :: rest))
  rw [came] at both
  exact ⟨(client.request closed r other).2, Prod.ext (both []).1.symm rfl,
    fun rest => (both rest).2⟩

theorem Missed.alike {nodes : List String} {world other after : ω} {failures : List Failure}
    (missed : Missed (session.replyAt client method path) nodes world failures after)
    (alike : Alike client session.isClosed world other) :
    ∃ next, Missed (session.replyAt client method path) nodes other failures next ∧
      Alike client session.isClosed after next := by
  induction missed generalizing other with
  | nobody => exact ⟨other, .nobody, alike⟩
  | node lost _ ih =>
    obtain ⟨between, lost', same⟩ := alike.step lost
    obtain ⟨next, later, same⟩ := ih same
    exact ⟨next, .node lost' later, same⟩

/-! ## The words for nodes that all failed -/

/-- The entry for a node that failed. -/
def entry (node shown : String) : String :=
  node ++ ": " ++ shown

theorem allNodesFailed_message {nodes : List String} {failures : List Failure}
    (complete : failures.length = nodes.length) :
    (TransportFault.allNodesFailed (noted nodes failures)).message =
      "Connection error (check network and/or proxy settings) - all nodes failed; tried " ++
        Text.quoteList nodes ++ ". Errors: " ++
        "; ".intercalate (nodes.zipWith entry (failures.map Failure.shown)) := by
  have listed : (noted nodes failures).map (·.1) = nodes :=
    List.map_fst_zip (by simp [complete])
  have entries : (noted nodes failures).map (fun pair => entry pair.1 pair.2) =
      nodes.zipWith entry (failures.map Failure.shown) :=
    List.map_zip_eq_zipWith
  calc
    (TransportFault.allNodesFailed (noted nodes failures)).message =
        "Connection error (check network and/or proxy settings) - all nodes failed; tried " ++
          Text.quoteList ((noted nodes failures).map (·.1)) ++ ". Errors: " ++ "; ".intercalate
            ((noted nodes failures).map fun pair => entry pair.1 pair.2) := rfl
    _ = _ := by simp only [listed, entries]

/-! ## Nodes in turn -/

/-- The nodes of a session are tried in turn. -/
structure TriedInTurn (client : Client ω) (session : Session) (method : Method) (path : String) :
    Prop where
  /-- A request comes to one of the ends, and leaves the session as it was. -/
  ends : ∀ (world : ω) (before : List Request), ∃ outcome sent after,
    request client method path ⟨session, ⟨world, before⟩⟩ =
      (outcome, ⟨session, ⟨after, before ++ sent⟩⟩) ∧
    Fares client session method path world outcome sent after
  /-- It comes to no other end than that. -/
  only : ∀ (world after : ω) (before sent : List Request) outcome,
    Fares client session method path world outcome sent after →
      request client method path ⟨session, ⟨world, before⟩⟩ =
        (outcome, ⟨session, ⟨after, before ++ sent⟩⟩)
  /-- What goes out goes to the nodes at the front of the list, in their order and at most once for
  each place. -/
  inOrder : ∀ (world after : ω) (sent : List Request) outcome,
    Fares client session method path world outcome sent after →
      ∃ tried, tried <+: session.nodes ∧
        sent.Sublist (tried.map (session.requestTo method path))
  /-- If the client fails at all nodes, the words of the fault hold the list of them, and for each
  place in its order the node and what the client says about it. -/
  told : ∀ (world after : ω) (failures : List Failure),
    Missed (session.replyAt client method path) session.nodes world failures after →
      failures.length = session.nodes.length ∧
      (TransportFault.allNodesFailed (noted session.nodes failures)).message =
        "Connection error (check network and/or proxy settings) - all nodes failed; tried " ++
          Text.quoteList session.nodes ++ ". Errors: " ++
          "; ".intercalate (session.nodes.zipWith entry (failures.map Failure.shown))
  /-- The list can be told from these words: no other list is quoted in the same way. -/
  legible : ∀ nodes, Text.quoteList nodes = Text.quoteList session.nodes ↔ nodes = session.nodes
  /-- An answer stays the same if nodes are put in front at which the client fails, as long as this
  does not change what the others answer. -/
  undisturbed : ∀ (front : List String) (world between other : ω) (failures : List Failure),
    Missed (session.replyAt client method path) front world failures between →
    Alike client session.isClosed other between → ∀ (before : List Request) response,
      (request client method path ⟨session, ⟨other, before⟩⟩).1 = .ok response →
      (request client method path
        ⟨{ session with nodes := front ++ session.nodes }, ⟨world, before⟩⟩).1 = .ok response

/-- An answer that comes from worlds that answer alike also comes behind nodes that fail. -/
theorem answered_behind {front : List String} {world between other : ω} {failures : List Failure}
    (missed : Missed (session.replyAt client method path) front world failures between)
    (alike : Alike client session.isClosed other between) {before : List Request}
    {response : Response}
    (found : (request client method path ⟨session, ⟨other, before⟩⟩).1 = .ok response) :
    (request client method path
      ⟨{ session with nodes := front ++ session.nodes }, ⟨world, before⟩⟩).1 = .ok response := by
  obtain ⟨outcome, sent, after, fares⟩ := fares_total client session method path other
  rw [request_of_fares fares before] at found
  cases found
  cases fares with
  | answered listed later answer =>
    obtain ⟨last, later', same⟩ := later.alike alike
    obtain ⟨next, answer', -⟩ := same.step answer
    let longer : Session := { session with nodes := front ++ session.nodes }
    have place : longer.nodes = (front ++ _) ++ _ :: _ :=
      (congrArg (front ++ ·) listed).trans (List.append_assoc ..).symm
    -- The nodes of a session have no part in what comes of its requests.
    have missedAll : Missed (longer.replyAt client method path) (front ++ _) world _ last :=
      missed.append later'
    have faresBehind : Fares client longer method path world _ _ next :=
      .answered place missedAll answer'
    exact congrArg Prod.fst (request_of_fares faresBehind before)

theorem tried_in_turn (client : Client ω) (session : Session) (method : Method) (path : String) :
    TriedInTurn client session method path where
  ends world before := by
    obtain ⟨outcome, sent, after, fares⟩ := fares_total client session method path world
    exact ⟨outcome, sent, after, request_of_fares fares before, fares⟩
  only _ _ before _ _ fares := request_of_fares fares before
  inOrder _ _ _ _ fares := fares.sent_sublist
  told _ _ _ missed := ⟨missed.length, allNodesFailed_message missed.length⟩
  legible _ := Text.quoteList_inj
  undisturbed _ _ _ _ _ missed alike _ _ found := answered_behind missed alike found

/-- Nodes of which the second one cannot be reached. -/
def secondDown : Http.Script :=
  [{ node := some "es2:9200", reply := .error (.client "ConnectError" "refused") },
    { reply := .ok ⟨503, []⟩ }]

/-- The third node answers as it does alone, though the URL of the first is none and the second one
fails. -/
theorem answer_behind_two_failures :
    let alone : Session := { nodes := ["es3:9200"] }
    let behind : Session := { nodes := ["es1:abc", "es2:9200", "es3:9200"] }
    let answer := Except.ok ⟨503, "Service Unavailable", "es3", some 9200, []⟩
    (request Http.Script.wire .get "/" ⟨alone, ⟨secondDown, []⟩⟩).1 = answer ∧
      (request Http.Script.wire .get "/" ⟨behind, ⟨secondDown, []⟩⟩).1 = answer := by
  intro alone behind answer
  have missed : Missed (alone.replyAt Http.Script.wire .get "/") ["es1:abc", "es2:9200"]
      secondDown [⟨false, "InvalidURL(\"Invalid port: 'abc'\")"⟩,
        ⟨true, "ConnectError('refused')"⟩] secondDown :=
    by
    refine .node (?_ : _ = (_, secondDown)) (.node ?_ .nobody)
    all_goals decide +kernel
  have found : (request Http.Script.wire .get "/" ⟨alone, ⟨secondDown, []⟩⟩).1 = answer := by
    decide +kernel
  exact ⟨found, (tried_in_turn Http.Script.wire alone .get "/").undisturbed _ _ _ _ _ missed
    (fun _ => rfl) [] _ found⟩

end Clearance.Rest
