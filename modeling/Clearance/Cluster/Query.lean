import Clearance.Version

/-!
# Questions to the cluster

Everything that is ever asked of a cluster, and what kind of answer each question has.
-/

namespace Clearance

/-- The health of an index. -/
inductive Health where
  | green
  | yellow
  | red
  deriving DecidableEq, Repr

namespace Health

/-- The name of the health. -/
def label : Health → String
  | green => "green"
  | yellow => "yellow"
  | red => "red"

/-- The health of a name. -/
def ofLabel? (name : String) : Option Health :=
  [green, yellow, red].find? (·.label == name)

end Health

namespace Cluster

/-- A question to the cluster. -/
inductive Query where
  /-- The addresses of the nodes of a role. -/
  | nodes (role : Role)
  | name
  /-- Whether there is an index of this name. -/
  | presence (index : String)
  | health (index : String)
  | version
  deriving DecidableEq, Repr

/-- The answers that a question has. -/
@[reducible] def Query.Answer : Query → Type
  | nodes _ => List String
  | name => String
  | presence _ => Bool
  | health _ => Health
  | version => Version

end Cluster

end Clearance
