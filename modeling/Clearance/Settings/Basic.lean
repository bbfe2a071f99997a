import Clearance.Role
import Clearance.Settings.Address
import Clearance.Text.Blank

/-!
# Settings

What a job may set, with the defaults, and what follows from it. Two settings have three states:
left open, they follow from the others. Discovery is on unless the nodes are reached over a wide
area network, and nodes are restricted to those with data unless another restriction is on or the
nodes are reached over such a network.
-/

namespace Clearance

/-- The settings of a job. -/
structure Settings where
  /-- The declared nodes, as they were written. -/
  nodes : List String := ["localhost"]
  port : Int := 9200
  discovery : Option Bool := none
  /-- Only the declared nodes can be reached. -/
  wanOnly : Bool := false
  clientOnly : Bool := false
  dataOnly : Option Bool := none
  ingestOnly : Bool := false
  /-- What is written is a JSON document already. -/
  jsonInput : Bool := false
  includedFields : List String := []
  excludedFields : List String := []
  /-- The fields to read, as the user chose them. -/
  sourceFilter : List String := []
  /-- The fields to read, as an integration chose them. -/
  internalFields : List String := []
  allowRedReads : Bool := false
  autoCreateIndex : Bool := true
  resource : Option String := none
  resourceRead : Option String := none
  resourceWrite : Option String := none
  clusterName : Option String := none
  operation : String := "index"
  documentId : Option String := none
  /-- The version of the cluster, once it is known. -/
  recordedVersion : Option String := none
  tls : Bool := false
  authUser : Option String := none
  authPassword : Option String := none
  /-- The longest that a request may take, in seconds. -/
  timeout : Float := 60.0
  writerClass : Option String := none
  readerClass : Option String := none
  bytesConverterClass : Option String := none
  fieldExtractorClass : Option String := none

/-- A text that says something: an empty one counts as missing. -/
def stated (s : Option String) : Option String :=
  s.filter (· ≠ "")

namespace Settings

/-- Whether the nodes of the cluster are to be discovered. -/
def discoveryEnabled (s : Settings) : Bool :=
  s.discovery.getD (!s.wanOnly)

/-- Whether nodes are to be restricted to those with data. -/
def dataOnlyInForce (s : Settings) : Bool :=
  s.dataOnly.getD (!(s.wanOnly || s.clientOnly || s.ingestOnly))

/-- The role that nodes are to be restricted to. Of several restrictions the first one counts. -/
def restriction (s : Settings) : Option Role :=
  if s.clientOnly then some .client
  else if s.dataOnlyInForce then some .data
  else if s.ingestOnly then some .ingest
  else none

/-- The addresses of the declared nodes, every one once. -/
def declaredNodes (s : Settings) : Except Fault (List String) :=
  (s.nodes.mapM (Address.qualify · s.port)).map List.eraseDups

/-- What is read from. -/
def readResource (s : Settings) : Option String :=
  (stated s.resourceRead).or s.resource

/-- What is written to. -/
def writeResource (s : Settings) : Option String :=
  (stated s.resourceWrite).or s.resource

/-- The index of a resource: its text up to the first slash. -/
def indexOf (resource : Option String) : Option String :=
  (stated resource).map fun r =>
    String.ofList ((Text.trim r.toList).takeWhile (· != '/'))

/-- The index that is read from. -/
def readIndex (s : Settings) : Option String :=
  indexOf s.readResource

/-- The index that is written to. -/
def writeIndex (s : Settings) : Option String :=
  indexOf s.writeResource

end Settings

end Clearance
