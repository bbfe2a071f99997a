/-!
# Roles of a node

What a node of the cluster can be asked to be: a holder of data, a client that only coordinates, an
ingest node, or any node at all. Clearance can be restricted to one of the three proper roles.
-/

namespace Clearance

/-- A role that a node can satisfy; every node satisfies `any`. -/
inductive Role where
  | any
  | data
  | client
  | ingest
  deriving DecidableEq, Repr

namespace Role

/-- The name of the role. -/
def label : Role → String
  | any => "any"
  | data => "data"
  | client => "client"
  | ingest => "ingest"

/-- The role of a name. -/
def ofLabel? (name : String) : Option Role :=
  [any, data, client, ingest].find? (·.label == name)

/-- The mode that a restriction to the role is called. -/
def mode (r : Role) : String :=
  r.label ++ "-only"

/-- What is said when the cluster has no node of the role. -/
def noNodes : Role → String
  | any => "No nodes with HTTP-enabled available"
  | data => "No data nodes with HTTP-enabled available"
  | client => "Client-only routing specified but no client nodes with HTTP-enabled available"
  | ingest => "Ingest-only routing specified but no ingest nodes with HTTP-enabled available"

theorem ofLabel?_label (r : Role) : ofLabel? r.label = some r := by
  cases r <;> decide

end Role

end Clearance
