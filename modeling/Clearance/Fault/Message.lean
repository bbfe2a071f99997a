import Clearance.Fault
import Clearance.Settings.Key

/-!
# The words of a fault

What each fault is told as. Settings are named by their properties, lists of nodes are shown with
every node quoted.
-/

namespace Clearance

open Settings (Key)
open Text (quoteList)

/-- The settings that a conflict is about. -/
def withNames (first second : Key) : String :=
  s!"['{first.name}' with '{second.name}']"

/-- The words for a setting that cannot be read. -/
def TextFault.message : TextFault → String
  | flag setting given => s!"Invalid boolean value [{given}] for setting '{setting}'"
  | duration setting given => s!"Invalid duration [{given}] for setting '{setting}'"
  | node given => s!"Invalid node [{given}] in setting '{Key.nodes.name}'"
  | unbracketed given =>
    s!"Invalid node [{given}] in setting '{Key.nodes.name}'; " ++
      "IPv6 addresses must be enclosed in brackets"
  | nodePort text given =>
    s!"Invalid port [{text}] for node [{given}] in setting '{Key.nodes.name}'"
  | port given => s!"Invalid port [{given}] for setting '{Key.port.name}'"

/-- The words for a conflict. -/
def Conflict.message : Conflict → String
  | wanWithDiscovery =>
    "Discovery cannot be enabled when running in WAN mode " ++ withNames .discovery .wanOnly
  | wanWithClient =>
    "Client-only nodes cannot be enabled when running in WAN mode " ++
      withNames .clientOnly .wanOnly
  | wanWithData =>
    "Data-only nodes cannot be enabled when running in WAN mode " ++ withNames .dataOnly .wanOnly
  | wanWithIngest =>
    "Ingest-only nodes cannot be enabled when running in WAN mode " ++
      withNames .ingestOnly .wanOnly
  | severalRestrictions =>
    "Use either client-only or data-only or ingest-only nodes but not a combination " ++
      s!"['{Key.clientOnly.name}', '{Key.dataOnly.name}', '{Key.ingestOnly.name}']"
  | jsonWithInclusion =>
    "When writing data as JSON, the field inclusion feature is ignored. This is most likely not " ++
      "what the user intended. Bailing out... " ++ withNames .includedFields .jsonInput
  | jsonWithExclusion =>
    "When writing data as JSON, the field exclusion feature is ignored. This is most likely not " ++
      "what the user intended. Bailing out... " ++ withNames .excludedFields .jsonInput
  | twoSourceFilters user =>
    "Both internal and user provided source filters have been set. The internal source filters " ++
      "are usually set by integrations and must not be combined with " ++
      s!"'{Key.sourceFilter.name}'. Please remove the user defined value " ++
      s!"'{Key.sourceFilter.name}' (" ++ ",".intercalate user ++ ")"

/-- What was attempted, in words. -/
def Errand.message : Errand → String
  | extendNodes => "discover cluster nodes"
  | listNodes role => s!"list {role.label} nodes"
  | checkName => "verify the cluster name"
  | checkHealth index => s!"check the health of index [{index}]"
  | checkExistence index => s!"check the existence of index [{index}]"

/-- A port, or what is written where there is none. -/
def portText : Option Int → String
  | some port => toString port
  | none => "None"

/-- The words for a fault of transport. -/
def TransportFault.message : TransportFault → String
  | noNodes => "No nodes configured"
  | allNodesFailed failures =>
    "Connection error (check network and/or proxy settings) - all nodes failed; tried " ++
      quoteList (failures.map (·.1)) ++ ". Errors: " ++
      "; ".intercalate (failures.map fun (node, shown) => node ++ ": " ++ shown)
  | badStatus path host port status reason =>
    s!"[GET] on [{path}] failed; server [{host}:{portText port}] returned [{status}|{reason}]"
  | invalidDocument path => s!"[GET] on [{path}] returned invalid JSON"
  | unexpectedDocument path shown => s!"[GET] on [{path}] returned unexpected payload {shown}"
  | noNodeInformation => "[GET] on [/_nodes/http] returned no node information"
  | noClusterName => "Cluster info response has no cluster_name"
  | unclearExistence path status reason =>
    s!"[HEAD] on [{path}] failed; returned [{status}|{reason}]"
  | unknownHealth status index => s!"Unknown health status [{status}] for index [{index}]"
  | unreadableVersion shown => s!"Cannot parse cluster version from {shown}"
  | reported message => message

/-- The words for a value that no operation can take. -/
def ValueFault.message : ValueFault → String
  | numeral flaw => flaw.message
  | oversized =>
    s!"Exceeds the limit ({Numeral.maxDigits} digits) for integer string conversion; " ++
      "use sys.set_int_max_str_digits() to increase the limit"
  | version text => s!"Unsupported/Unknown cluster version [{text}]"
  | anyRole => "Cannot filter nodes by role ANY"
  | reported message => message

/-- The words for a fault of the configuration. One that has a reason ends with the words for it,
except where the version could not be asked for. -/
def ConfigurationFault.message : ConfigurationFault → String
  | text fault => fault.message
  | conflict c => c.message
  | missingId operation =>
    s!"Operation [{operation}] requires an id but none ({Key.documentId.name}) was specified"
  | patternInReadIndex index =>
    "Cannot read indices that have curly brace field extraction patterns in them: " ++ index
  | noClusterName => s!"{Key.clusterName.name} must not be null."
  | otherClusterName wanted actual =>
    s!"{Key.clusterName.name} [{wanted}] does not match cluster_name [{actual}]."
  | noReadResource => "No read resource specified"
  | noWriteResource => "No write resource specified"
  | redIndex index =>
    s!"Index specified [{index}] is either red or includes an index that is red, and thus all " ++
      "requested data cannot be safely and fully loaded. Bailing out..."
  | missingIndex resource =>
    s!"Target index [{resource}] does not exist and auto-creation is disabled " ++
      s!"[setting '{Key.autoCreateIndex.name}' is 'false']"
  | recordedVersion fault => fault.message
  | unreachable errand reason =>
    s!"Cannot {errand.message}; the cluster is not accessible: {reason.message}"
  | unknownVersion _ =>
    "Cannot detect cluster version - typically this happens if the network/cluster is not " ++
      "accessible or when targeting a WAN/Cloud instance without the proper setting " ++
      s!"'{Key.wanOnly.name}'"
  | reported message => message

/-- The words of a shortage. If the cluster lists nodes of the role, they were not in the working
set, and what is said about that depends on whether discovery had extended it. -/
def Shortage.message (s : Shortage) : String :=
  if s.roleNodes = [] then s.role.noNodes
  else if s.discoveryEnabled then
    s.role.noNodes ++ s!"; looks like the {s.role.label} nodes discovered have been removed; " ++
      "is the cluster in a stable state? " ++ quoteList s.roleNodes
  else
    s.role.noNodes ++ "; node discovery is disabled and none of nodes specified fit the " ++
      "criterion " ++ quoteList s.workingSet

/-- The words of a fault; a document of the wrong shape has none. -/
def Fault.message : Fault → Option String
  | configuration fault => some fault.message
  | shortage s => some s.message
  | transport fault => some fault.message
  | general message => some message
  | value fault => some fault.message
  | misuse fault => some fault.message
  | shape _ => none

end Clearance
