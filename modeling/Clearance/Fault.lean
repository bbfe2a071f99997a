import Clearance.Numeral
import Clearance.Role

/-!
# Faults

Everything that can go wrong, by its cause. Three kinds belong to this library: a fault of the
configuration, which the user can mend; a shortage, which is a fault of the configuration too and
tells what was left of the nodes; and a fault of transport, which comes from talking to the cluster.
Checks turn faults of transport into faults of the configuration that keep them as their reason. The
other kinds pass through unchanged.
-/

namespace Clearance

/-- A setting whose text cannot be read. -/
inductive TextFault where
  | flag (setting value : String)
  | duration (setting value : String)
  /-- Brackets around the host do not close, or something other than a port follows them. -/
  | node (node : String)
  /-- More than one colon without brackets. -/
  | unbracketed (node : String)
  | nodePort (port node : String)
  | port (value : String)
  deriving DecidableEq, Repr

/-- Settings that cannot be used together. -/
inductive Conflict where
  | wanWithDiscovery
  | wanWithClient
  | wanWithData
  | wanWithIngest
  | severalRestrictions
  | jsonWithInclusion
  | jsonWithExclusion
  /-- The integration set a source filter, and the user this one. -/
  | twoSourceFilters (user : List String)
  deriving DecidableEq, Repr

/-- What was attempted when the cluster could not be reached. -/
inductive Errand where
  | extendNodes
  | listNodes (role : Role)
  | checkName
  | checkHealth (index : String)
  | checkExistence (index : String)
  deriving DecidableEq, Repr

/-- What went wrong between this side and the cluster. -/
inductive TransportFault where
  | noNodes
  /-- Every node failed, in this order, and the client listed each failure in its words. -/
  | allNodesFailed (failures : List (String × String))
  /-- A request for a document was answered with another status than 200. -/
  | badStatus (path host : String) (port : Option Int) (status : Nat) (reason : String)
  | invalidDocument (path : String)
  /-- The document is no object; it is kept as it is shown. -/
  | unexpectedDocument (path shown : String)
  | noNodeInformation
  | noClusterName
  /-- The existence of an index was answered with a status that says neither yes nor no. -/
  | unclearExistence (path : String) (status : Nat) (reason : String)
  | unknownHealth (status index : String)
  /-- No version can be read from the document, which is kept as it is shown. -/
  | unreadableVersion (shown : String)
  /-- Reported in these words by the cluster itself. -/
  | reported (message : String)
  deriving DecidableEq, Repr

/-- A value that no operation can take. -/
inductive ValueFault where
  | numeral (flaw : Numeral.Flaw)
  /-- A whole number has too many digits to be shown. -/
  | oversized
  | version (text : String)
  /-- Nodes cannot be narrowed to those of any role. -/
  | anyRole
  | reported (message : String)
  deriving DecidableEq, Repr

/-- A fault that the user can mend in the configuration. -/
inductive ConfigurationFault where
  | text (fault : TextFault)
  | conflict (conflict : Conflict)
  | missingId (operation : String)
  | patternInReadIndex (index : String)
  | noClusterName
  | otherClusterName (wanted actual : String)
  | noReadResource
  | noWriteResource
  | redIndex (index : String)
  | missingIndex (resource : String)
  /-- The version that the settings record cannot be read. -/
  | recordedVersion (fault : ValueFault)
  | unreachable (errand : Errand) (reason : TransportFault)
  | unknownVersion (reason : TransportFault)
  | reported (message : String)
  deriving DecidableEq, Repr

/-- The state in which no node of a role was left: the nodes that the cluster lists for the role,
the working set, and whether it had been extended by discovery. -/
structure Shortage where
  role : Role
  roleNodes : List String
  workingSet : List String
  discoveryEnabled : Bool
  deriving DecidableEq, Repr

/-- A document whose parts do not have the shape that is needed. -/
inductive ShapeFault where
  /-- A member was looked up in something that is no object. -/
  | noMembers
  /-- Items were taken from something that has none. -/
  | noItems
  deriving DecidableEq, Repr

/-- An operation at a moment at which it is not possible, or with something that it cannot take. It
is reported by whatever was used to talk to the cluster. -/
structure MisuseFault where reported ::
  message : String
  deriving DecidableEq, Repr

/-- Everything that can go wrong. -/
inductive Fault where
  | configuration (fault : ConfigurationFault)
  | shortage (shortage : Shortage)
  | transport (fault : TransportFault)
  | general (message : String)
  | value (fault : ValueFault)
  | misuse (fault : MisuseFault)
  | shape (fault : ShapeFault)
  deriving DecidableEq, Repr

namespace Fault

/-- Whether the fault is one of the configuration; a shortage is. -/
def isConfiguration : Fault → Bool
  | configuration _ | shortage _ => true
  | _ => false

/-- The fault of this library that the fault was raised from. -/
def cause : Fault → Option Fault
  | configuration (.unreachable _ reason) => some (transport reason)
  | configuration (.unknownVersion reason) => some (transport reason)
  | _ => none

/-- The fault for the caller when an errand failed: a fault of transport becomes one of the
configuration, every other fault stays what it is. -/
def onErrand (errand : Errand) : Fault → Fault
  | transport reason => configuration (.unreachable errand reason)
  | fault => fault

end Fault

end Clearance
