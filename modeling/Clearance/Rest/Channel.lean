import Clearance.Cluster.Conversation
import Clearance.Rest.Session

/-!
# Asking a cluster over REST

Every question to the cluster is answered by requests of a session, over any client.
-/

namespace Clearance.Rest

open Cluster (Channel Query)

variable {ω : Type} (client : Http.Client ω)

/-- Answers a question by requests. -/
def inquire : (query : Query) → Attempt (Call ω) query.Answer
  | .nodes role => addressesOf client role
  | .name => name client
  | .presence index => presence client index
  | .health index => health client index
  | .version => version client

/-- Asks a cluster over REST. -/
def channel : Channel Session (Line ω) where
  start := Session.start
  answer query session line :=
    let (outcome, c) := inquire client query ⟨session, line⟩
    (outcome, c.session, c.line)
  stop session line :=
    ({ session with isClosed := true }, { line with world := client.close line.world })

end Clearance.Rest
