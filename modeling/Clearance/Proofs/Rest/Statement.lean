import Clearance.Http.Script
import Clearance.Proofs.Rest.Failover

/-!
# What an answer says about a question

Every question but the one for nodes is put by one request, and what is learned is what the first
node that answers says. The answer can be of any status and hold anything. It says something about
the question in the cases that are listed here, and in every other case there is a fault of
transport; no document of an odd shape comes to anything else. Only what the client raises beside
its own errors comes through as it is.

Results:
1. `Says`: what a response says about a question, one rule for each kind of question.
2. `nameOf_eq_ok`, `versionOf_eq_ok`: what is read from a document.
3. `learns_said`: a question learns what the response says.
4. `told_by_first_answer`: all of this for every session.
-/

namespace Clearance.Rest

open Cluster (Query)
open Http (Client Method Request Response)
open Json (Members)
open Text (Glyph)

variable {ω : Type} {client : Client ω}

/-! ## Questions and responses -/

/-- The request that a question is put by. -/
def putBy : Query → Method × String
  | .nodes _ => (.get, "/_nodes/http")
  | .name | .version => (.get, "/")
  | .presence index => (.head, indexPath index)
  | .health index => (.get, healthPath index)

/-- The response has status 200 and holds this object. -/
def Holds (response : Response) (document : Members) : Prop :=
  response.status = 200 ∧ Json.readBytes response.body = some (.object document)

/-- What a response says about a question. -/
inductive Says (response : Response) : (query : Query) → query.Answer → Prop
  | name {document : Members} {given : Json.Value} (holds : Holds response document)
      (named : Members.get? (Glyph.ofString "cluster_name") document = some given) :
      Says response .name given.text
  /-- The number is read as a text, whether it is written as one or not. -/
  | version {document version : Members} {number : Json.Value} {v : Version}
      (holds : Holds response document)
      (given : Members.get? (Glyph.ofString "version") document = some (.object version))
      (numbered : Members.get? (Glyph.ofString "number") version = some number)
      (read : Version.read number.text = .ok v) : Says response .version v
  | present {index : String} (found : response.status = 200) : Says response (.presence index) true
  | absent {index : String} (missing : response.status = 404) :
      Says response (.presence index) false
  /-- Capital letters in the status make no difference. -/
  | health {index : String} {document : Members} {health : Health}
      (holds : Holds response document) (labelled : StatusIs document health.label) :
      Says response (.health index) health

/-! ## Documents -/

theorem nameOf_eq_ok {document : Members} {name : String} :
    nameOf document = .ok name ↔
      ∃ given, Members.get? (Glyph.ofString "cluster_name") document = some given ∧
        given.text = name := by
  unfold nameOf
  cases Members.get? (Glyph.ofString "cluster_name") document with
  | none => simp
  | some given => simp

theorem versionOf_eq_ok {document : Members} {v : Version} :
    versionOf document = .ok v ↔
      ∃ version number,
        Members.get? (Glyph.ofString "version") document = some (.object version) ∧
        Members.get? (Glyph.ofString "number") version = some number ∧
        Version.read number.text = .ok v := by
  unfold versionOf
  dsimp only
  split
  · next version given =>
    split
    · next number numbered =>
      rw [mapError_eq_ok]
      constructor
      · intro read
        exact ⟨version, number, given, numbered, read⟩
      · rintro ⟨_, _, same, same', read⟩
        cases given.symm.trans same
        cases numbered.symm.trans same'
        exact read
    · next unnumbered =>
      refine ⟨nofun, ?_⟩
      rintro ⟨_, _, same, numbered, -⟩
      cases given.symm.trans same
      cases unnumbered.symm.trans numbered
  · next other =>
    refine ⟨nofun, ?_⟩
    rintro ⟨version, _, given, -⟩
    exact absurd given (other version)

/-! ## Learning -/

variable {session : Session}

/-- A question learns what the response says about it. -/
theorem learns_said {query : Query} (other : ∀ role, query ≠ .nodes role) :
    Learns client session (putBy query).1 (putBy query).2 (inquire client query) fun response =>
      Says response query := by
  -- Every question is one request and what is read out of its answer, by a rule of its own.
  cases query with
  | nodes role => exact absurd rfl (other role)
  | name =>
    refine ((Learns.fetch "/").read nameOf).restate fun response name => ?_
    constructor
    · rintro ⟨document, holds, read⟩
      obtain ⟨given, named, rfl⟩ := nameOf_eq_ok.mp read
      exact .name holds named
    · intro said
      cases said with
      | name holds named => exact ⟨_, holds, nameOf_eq_ok.mpr ⟨_, named, rfl⟩⟩
  | version =>
    refine ((Learns.fetch "/").read versionOf).restate fun response v => ?_
    constructor
    · rintro ⟨document, holds, read⟩
      obtain ⟨version, number, given, numbered, read⟩ := versionOf_eq_ok.mp read
      exact .version holds given numbered read
    · intro said
      cases said with
      | version holds given numbered read =>
        exact ⟨_, holds, versionOf_eq_ok.mpr ⟨_, _, given, numbered, read⟩⟩
  | presence index =>
    refine (Learns.presence index).restate fun response here => ?_
    unfold TellsPresence
    constructor
    · intro status
      cases here with
      | true => exact .present status
      | false => exact .absent status
    · intro said
      cases said with
      | present found => exact found
      | absent missing => exact missing
  | health index =>
    refine (Learns.health index).restate fun response health => ?_
    constructor
    · rintro ⟨status, document, read, labelled⟩
      exact .health ⟨status, read⟩ labelled
    · intro said
      cases said with
      | health holds labelled => exact ⟨holds.1, _, holds.2, labelled⟩

/-- A question that is not one for nodes is put by one request, and comes to what the first node
that answers says about it. If no node answers, or the answer says nothing about the question, there
is a fault of transport. Nothing else is a fault, unless the client raises it, which no orderly
client does in an open session. -/
theorem told_by_first_answer (client : Client ω) (session : Session) {query : Query}
    (other : ∀ role, query ≠ .nodes role) (world : ω) (before : List Request) :
    ∃ sent finish after outcome,
      Tried client session (putBy query).1 (putBy query).2 session.nodes world sent finish after ∧
      (channel client).answer query session ⟨world, before⟩ =
        (outcome, session, ⟨after, before ++ sent⟩) ∧
      (∀ a, outcome = .ok a ↔
        ∃ response, finish = .answered response ∧ Says response query a) ∧
      (∀ fault, outcome = .error (.misuse fault) ↔ finish = .raised fault) ∧
      (∀ fault, outcome = .error fault → OfTransport fault ∨ ∃ own, fault = .misuse own) ∧
      (session.isClosed = false → client.Orderly →
        ∀ fault, outcome = .error fault → OfTransport fault) := by
  obtain ⟨sent, finish, after, tried⟩ :=
    Tried.total client session (putBy query).1 (putBy query).2 session.nodes world
  obtain ⟨outcome, came, learned⟩ := learns_said other _ _ _ _ tried before
  refine ⟨sent, finish, after, outcome, tried, answer_of_inquire came, learned.told,
    learned.raised, fun _ => learned.untold, fun unclosed orderly fault failed => ?_⟩
  rcases learned.untold failed with transport | ⟨own, rfl⟩
  · exact transport
  · cases (learned.raised own).mp failed
    have raises := tried.raises
    rw [unclosed] at raises
    exact absurd raises (orderly own)

/-- The first node is down. The second one gives the version as a number, which is read all the
same. -/
theorem number_told_by_second_node :
    let session : Session := { nodes := ["a:9200", "b:9200"] }
    let body := "\x7b\"version\": \x7b\"number\": 7\x7d\x7d"
    let script : Http.Script :=
      [{ node := some "a:9200", reply := .error (.client "ConnectError" "refused") },
        { reply := .ok ⟨200, body.toUTF8.data.toList⟩ }]
    (∀ role, Query.version ≠ .nodes role) ∧
      ((channel Http.Script.wire).answer .version session ⟨script, []⟩).1 = .ok ⟨7⟩ := by
  intro session body script
  have other : ∀ role, Query.version ≠ .nodes role := nofun
  obtain ⟨_, finish, _, outcome, tried, came, told, -⟩ :=
    told_by_first_answer Http.Script.wire session other script []
  let response : Response := ⟨200, "OK", "b", some 9200, body.toUTF8.data.toList⟩
  have second : ∃ sent, Tried Http.Script.wire session .get "/" session.nodes script sent
      (.answered response) script := by
    have down : session.replyAt Http.Script.wire .get "/" "a:9200" script =
        (.failed ⟨true, "ConnectError('refused')"⟩, script) := by decide +kernel
    exact ⟨_, .failed down (.answered (by decide +kernel))⟩
  obtain ⟨sent, second⟩ := second
  obtain ⟨-, rfl, -⟩ := tried.unique second
  have holds : Holds response
      [(Glyph.ofString "version", .object [(Glyph.ofString "number", .int 7)])] :=
    ⟨rfl, by rfl⟩
  have said : Says response .version ⟨7⟩ := .version holds (by rfl) (by rfl) (by rfl)
  exact ⟨other, (congrArg Prod.fst came).trans ((told ⟨7⟩).mpr ⟨_, rfl, said⟩)⟩

end Clearance.Rest
