import Clearance.Cluster.Conversation

/-!
# Canned clusters

A cluster whose answers are laid down beforehand: nodes by role, indices with their health, a name
and a version. Faults can be laid down as well, for one question, for a kind of question or for all,
and the most particular one counts.
-/

namespace Clearance.Cluster

/-- The kind of a question. -/
def Query.kind : Query → String
  | nodes _ => "nodes_by_role"
  | name => "cluster_name"
  | presence _ => "index_exists"
  | health _ => "index_health"
  | version => "remote_version"

/-- The question with what it is about. -/
def Query.label (q : Query) : String :=
  match q with
  | nodes role => q.kind ++ ":" ++ role.label
  | presence index | health index => q.kind ++ ":" ++ index
  | name | version => q.kind

/-- A cluster with answers that are laid down. -/
structure Canned where
  nodes : List (Role × List String) := []
  indices : List (String × Health) := []
  name : String := "es-cluster"
  version : Version := ⟨8⟩
  /-- Faults by the label or kind of the question, or by `*` for every question. -/
  faults : List (String × Fault) := []

namespace Canned

/-- The fault that is laid down for a question. -/
def fault? (c : Canned) (q : Query) : Option Fault :=
  ((c.faults.lookup q.label).or (c.faults.lookup q.kind)).or (c.faults.lookup "*")

/-- The answer that is laid down for a question. -/
def answer (c : Canned) : (q : Query) → q.Answer
  | .nodes role => (c.nodes.lookup role).getD []
  | .name => c.name
  | .presence index => (c.indices.lookup index).isSome
  | .health index => (c.indices.lookup index).getD .green
  | .version => c.version

/-- Asks a canned cluster. Its sessions know nothing, and it never changes. -/
def channel : Channel Unit Canned where
  start _ _ := ()
  answer q _ c :=
    match c.fault? q with
    | some fault => (.error fault, (), c)
    | none => (.ok (c.answer q), (), c)
  stop _ c := ((), c)

end Canned

end Clearance.Cluster
