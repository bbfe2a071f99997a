import Clearance.Attempt
import Clearance.Cluster.Query
import Clearance.Http.Message
import Clearance.Json.Encoding
import Clearance.Rest.Node
import Clearance.Settings.Basic
import Clearance.Text.Percent

/-!
# Sessions over REST

A session talks to one cluster through a list of nodes. Every request is tried on the nodes in order
until one answers, whatever its answer is; a node at which the client fails is passed over. The
descriptions of the nodes are fetched once, and kept when all of them could be read. A session that
has been closed goes on to hand its requests to the client, which was closed with it.
-/

namespace Clearance.Rest

open Http (Client Method Reply Request Response)
open Json (Members Value)
open Text (Glyph)

/-- A session on a list of nodes. -/
structure Session where
  nodes : List String
  tls : Bool := false
  credentials : Option (String × String) := none
  timeout : Float := 60.0
  /-- The descriptions of the nodes of the cluster, once they are known. -/
  known : Option (List Node) := none
  isClosed : Bool := false

namespace Session

/-- The session that settings ask for, on the given nodes. -/
def start (s : Settings) (nodes : List String) : Session where
  nodes := nodes
  tls := s.tls
  credentials := (stated s.authUser).map fun user => (user, s.authPassword.getD "")
  timeout := s.timeout

/-- The URL of a path at a node. The text of the node stands in it as it is. -/
def url (session : Session) (path node : String) : String :=
  Http.Endpoint.schemeOf session.tls ++ "://" ++ node ++ path

/-- The request to a node. -/
def requestTo (session : Session) (method : Method) (path node : String) : Request :=
  ⟨method, session.url path node, session.credentials, session.timeout⟩

end Session

/-- The world behind a client, and every request that has gone out. -/
structure Line (ω : Type) where
  world : ω
  sent : List Request := []

/-- A session on its line. -/
structure Call (ω : Type) where
  session : Session
  line : Line ω

variable {ω : Type} (client : Client ω)

/-- Hands a request to the client of the session. It is recorded if it has gone out. -/
def send (r : Request) : Attempt (Call ω) Reply :=
  fun c =>
    let (reply, world) := client.request c.session.isClosed r c.line.world
    (.ok reply, { c with line := ⟨world, c.line.sent ++ reply.sent r⟩ })

/-- Tries a request on the nodes in order, after the given failures, until one answers. -/
def tryNodes (session : Session) (method : Method) (path : String) :
    List (String × String) → List String → Attempt (Call ω) Response
  | failures, [] => Attempt.fail (.transport (.allNodesFailed failures))
  | failures, node :: rest => do
    match ← send client (session.requestTo method path node) with
    | .answered response => pure response
    | .failed failure => tryNodes session method path (failures ++ [(node, failure.shown)]) rest
    | .raised _ fault => Attempt.fail (.misuse fault)

/-- The answer of the first node that answers. -/
def request (method : Method) (path : String) : Attempt (Call ω) Response := do
  let c ← Attempt.get
  if c.session.nodes = [] then Attempt.fail (.transport .noNodes)
  else tryNodes client c.session method path [] c.session.nodes

/-- The object that a response holds. -/
def objectOf (path : String) (response : Response) : Except TransportFault Members :=
  if response.status ≠ 200 then
    .error (.badStatus path response.host response.port response.status response.reason)
  else match Json.readBytes response.body with
    | none => .error (.invalidDocument path)
    | some (.object members) => .ok members
    | some v => .error (.unexpectedDocument path v.shown)

/-- Fetches an object. -/
def fetch (path : String) : Attempt (Call ω) Members := do
  let response ← request client .get path
  Attempt.ofExcept ((objectOf path response).mapError .transport)

/-! ## Questions -/

/-- The nodes that a document about nodes describes. -/
def nodesOf (document : Members) : Except Fault (List Node) :=
  match Members.get? (Glyph.ofString "nodes") document with
  | some (.object descriptions) => (Node.ofDocuments descriptions).mapError .shape
  | _ => .error (.transport .noNodeInformation)

/-- The nodes of the cluster: those that are known, or else those that it describes now. -/
def clusterNodes : Attempt (Call ω) (List Node) := do
  let c ← Attempt.get
  match c.session.known with
  | some nodes => pure nodes
  | none => do
    let document ← fetch client "/_nodes/http"
    let nodes ← Attempt.ofExcept (nodesOf document)
    Attempt.modify fun c => { c with session := { c.session with known := some nodes } }
    pure nodes

/-- The addresses of the nodes of a role. -/
def addressesOf (role : Role) : Attempt (Call ω) (List String) := do
  let nodes ← clusterNodes client
  pure (Node.addresses nodes role)

/-- The name in a document about the cluster. -/
def nameOf (document : Members) : Except TransportFault String :=
  match Members.get? (Glyph.ofString "cluster_name") document with
  | some v => .ok v.text
  | none => .error .noClusterName

/-- The name of the cluster. -/
def name : Attempt (Call ω) String := do
  let document ← fetch client "/"
  Attempt.ofExcept ((nameOf document).mapError .transport)

/-- The version in a document about the cluster. -/
def versionOf (document : Members) : Except TransportFault Version :=
  let unreadable := TransportFault.unreadableVersion (Value.object document).shown
  match Members.get? (Glyph.ofString "version") document with
  | some (.object version) =>
    match Members.get? (Glyph.ofString "number") version with
    | some number => (Version.read number.text).mapError fun _ => unreadable
    | none => .error unreadable
  | _ => .error unreadable

/-- The version of the cluster. -/
def version : Attempt (Call ω) Version := do
  let document ← fetch client "/"
  Attempt.ofExcept ((versionOf document).mapError .transport)

/-- The path of an index. -/
def indexPath (name : String) : String :=
  "/" ++ Text.Percent.segment name

/-- The path of the health of an index. -/
def healthPath (name : String) : String :=
  "/_cluster/health/" ++ Text.Percent.segment name

/-- What the status of a response says about the existence of what was asked for. -/
def presenceOf (path : String) (response : Response) : Except TransportFault Bool :=
  if response.status = 200 then .ok true
  else if response.status = 404 then .ok false
  else .error (.unclearExistence path response.status response.reason)

/-- Whether there is an index of this name. -/
def presence (name : String) : Attempt (Call ω) Bool := do
  let response ← request client .head (indexPath name)
  Attempt.ofExcept ((presenceOf (indexPath name) response).mapError .transport)

/-- The health in a document about an index. -/
def healthOf (name : String) (document : Members) : Except TransportFault Health :=
  let status := match Members.get? (Glyph.ofString "status") document with
    | some v => String.ofList (Text.lower v.text.toList)
    | none => ""
  match Health.ofLabel? status with
  | some health => .ok health
  | none => .error (.unknownHealth status name)

/-- The health of an index. -/
def health (name : String) : Attempt (Call ω) Health := do
  let document ← fetch client (healthPath name)
  Attempt.ofExcept ((healthOf name document).mapError .transport)

end Clearance.Rest
