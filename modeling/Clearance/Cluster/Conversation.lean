import Clearance.Attempt
import Clearance.Cluster.Journal
import Clearance.Settings.Basic

/-!
# Conversations with the cluster

A channel is a way to ask a cluster. It opens a session on some nodes, answers questions in it and
stops it; beside the session there is a world, which answers and the end of a session may change and
which outlives the session. Nothing is assumed about the answers: they may differ from one time to
the next, and every one of them may be a fault.

A conversation is one session with its world and the journal. Questions are asked and notes are made
in it, and both are recorded.
-/

namespace Clearance.Cluster

/-- A way to ask a cluster, with sessions `σ` in a world `ω`. -/
structure Channel (σ ω : Type) where
  start : Settings → List String → σ
  answer : (query : Query) → σ → ω → Except Fault query.Answer × σ × ω
  stop : σ → ω → σ × ω

/-- A session in its world, and what happened in it. -/
structure Conversation (σ ω : Type) where
  session : σ
  world : ω
  journal : Journal := {}

variable {σ ω α : Type}

/-- Asks a question. It is recorded with its outcome, whatever that is. -/
def Channel.ask (ch : Channel σ ω) (query : Query) : Attempt (Conversation σ ω) query.Answer :=
  fun c =>
    let (outcome, session, world) := ch.answer query c.session c.world
    (outcome, ⟨session, world, c.journal.record (.asked query outcome)⟩)

/-- Makes a note. -/
def say (note : Note) : Attempt (Conversation σ ω) Unit :=
  Attempt.modify fun c => { c with journal := c.journal.say note }

/-- The conversation after its session was closed. -/
def Channel.close (ch : Channel σ ω) (c : Conversation σ ω) : Conversation σ ω :=
  let (session, world) := ch.stop c.session c.world
  ⟨session, world, c.journal.record .closed⟩

/-- Closes the session after an attempt, however the attempt ends. -/
def Channel.closing (ch : Channel σ ω) (x : Attempt (Conversation σ ω) α) :
    Attempt (Conversation σ ω) α :=
  fun c => ((x c).1, ch.close (x c).2)

/-- A new conversation on the given nodes. -/
def Channel.openOn (ch : Channel σ ω) (s : Settings) (nodes : List String) (world : ω)
    (journal : Journal) : Conversation σ ω :=
  ⟨ch.start s nodes, world, journal.record (.opened nodes)⟩

end Clearance.Cluster
