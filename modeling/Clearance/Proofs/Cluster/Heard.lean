import Clearance.Cluster.Conversation

/-!
# What is heard in a conversation

A question leaves its outcome in the journal, and the session and the world as the channel leaves
them, whether it is answered or not.

Results:
1. `ask_of_answer`: a question, by what the channel answers.
2. `ask_mapFault`, `ask_onErrand`: the same where a fault is told in another way.
-/

namespace Clearance.Cluster

variable {σ ω : Type} {ch : Channel σ ω} {query : Query} {c : Conversation σ ω}
  {outcome : Except Fault query.Answer} {session : σ} {world : ω}

/-- The conversation after one more question, with the notes that were made about its outcome. -/
def heard (c : Conversation σ ω) (query : Query) (outcome : Except Fault query.Answer)
    (notes : List Note) (session : σ) (world : ω) : Conversation σ ω :=
  ⟨session, world, ⟨c.journal.events ++ [.asked query outcome], c.journal.notes ++ notes⟩⟩

theorem ask_of_answer (answer : ch.answer query c.session c.world = (outcome, session, world)) :
    ch.ask query c = (outcome, heard c query outcome [] session world) := by
  simp [Channel.ask, Journal.record, heard, answer]

theorem ask_mapFault (f : Fault → Fault)
    (answer : ch.answer query c.session c.world = (outcome, session, world)) :
    (ch.ask query).mapFault f c = (outcome.mapError f, heard c query outcome [] session world) := by
  rw [Attempt.mapFault_apply, ask_of_answer answer]

theorem ask_onErrand (errand : Errand)
    (answer : ch.answer query c.session c.world = (outcome, session, world)) :
    (ch.ask query).onErrand errand c =
      (outcome.mapError (·.onErrand errand), heard c query outcome [] session world) :=
  ask_mapFault _ answer

@[simp] theorem say_heard (note : Note) (notes : List Note) :
    say note (heard c query outcome notes session world) =
      (.ok (), heard c query outcome (notes ++ [note]) session world) := by
  simp [say, Journal.say, heard]

end Clearance.Cluster
