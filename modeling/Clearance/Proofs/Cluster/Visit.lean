import Clearance.Cluster.Conversation

/-!
# Visits to the cluster

A visit is one session from its opening to its closing, with the questions that were asked in it and
what came of each. A talk only adds exchanges to the journal; which ones, and how they go together
with its outcome, follows from the parts that it is made of.

Results:
1. `Adds`: what a talk adds, with a rule for each way of making talks (`Adds.ask`, `Adds.say`,
   `Adds.ofExcept`, `Adds.mapFault`, `Adds.bind`).
2. `Asks.opening`: a talk that begins with a question and asks no other one afterwards.
-/

namespace Clearance.Cluster

/-- A question and what came of it. -/
structure Exchange where
  query : Query
  outcome : Except Fault query.Answer

/-- The exchange as it is recorded. -/
def Exchange.event (e : Exchange) : Event :=
  .asked e.query e.outcome

/-- The question of an event, if one was asked, with what came of it. -/
def Event.exchange? : Event → Option Exchange
  | .asked query outcome => some ⟨query, outcome⟩
  | .opened _ | .closed => none

/-- What a session is opened for. -/
structure Aim where
  nodes : List String
  queries : List Query
  deriving DecidableEq, Repr

/-- A session from its opening to its closing. -/
structure Visit where
  nodes : List String
  exchanges : List Exchange

namespace Visit

/-- The visit as it is recorded. -/
def events (v : Visit) : List Event :=
  .opened v.nodes :: (v.exchanges.map Exchange.event ++ [.closed])

/-- What the visit was for. -/
def aim (v : Visit) : Aim :=
  ⟨v.nodes, v.exchanges.map Exchange.query⟩

/-- The journal keeps every question that was asked in some visits. -/
theorem exchanges_of_events (visits : List Visit) :
    (visits.flatMap events).filterMap Event.exchange? = visits.flatMap exchanges := by
  have kept (exchanges : List Exchange) :
      (exchanges.map Exchange.event).filterMap Event.exchange? = exchanges := by
    rw [List.filterMap_map]
    exact List.filterMap_some
  induction visits with
  | nil => rfl
  | cons visit rest ih =>
    have closing : [Event.closed].filterMap Event.exchange? = [] := rfl
    rw [List.flatMap_cons, List.flatMap_cons, List.filterMap_append, ih, events,
      List.filterMap_cons_none rfl, List.filterMap_append, kept, closing, List.append_nil]

end Visit

variable {σ ω α β : Type} {ch : Channel σ ω}

/-- Whatever conversation it begins with, the talk adds some exchanges to the journal, and they and
its outcome are as the condition says. -/
def Adds (talk : Attempt (Conversation σ ω) α)
    (condition : List Exchange → Except Fault α → Prop) : Prop :=
  ∀ c, ∃ exchanges, (talk c).2.journal.events = c.journal.events ++ exchanges.map Exchange.event ∧
    condition exchanges (talk c).1

namespace Adds

variable {condition : List Exchange → Except Fault α → Prop}

/-- What is known already is told without a question. -/
theorem ofExcept {r : Except Fault α} (met : condition [] r) :
    Adds (Attempt.ofExcept r : Attempt (Conversation σ ω) α) condition :=
  fun _ => ⟨[], (List.append_nil _).symm, met⟩

theorem pure {a : α} (met : condition [] (.ok a)) :
    Adds (Pure.pure a : Attempt (Conversation σ ω) α) condition :=
  ofExcept met

theorem fail {fault : Fault} (met : condition [] (.error fault)) :
    Adds (Attempt.fail fault : Attempt (Conversation σ ω) α) condition :=
  ofExcept met

theorem require {holds : Bool} {fault : Fault}
    {condition : List Exchange → Except Fault Unit → Prop}
    (passed : condition [] (.ok ())) (refused : condition [] (.error fault)) :
    Adds (Attempt.require holds fault : Attempt (Conversation σ ω) Unit) condition := by
  cases holds with
  | true => exact pure passed
  | false => exact fail refused

theorem say {note : Note} {condition : List Exchange → Except Fault Unit → Prop}
    (met : condition [] (.ok ())) :
    Adds (Cluster.say note : Attempt (Conversation σ ω) Unit) condition :=
  fun _ => ⟨[], (List.append_nil _).symm, met⟩

theorem ask {query : Query} {condition : List Exchange → Except Fault query.Answer → Prop}
    (met : ∀ session world,
      condition [⟨query, (ch.answer query session world).1⟩] (ch.answer query session world).1) :
    Adds (ch.ask query) condition :=
  fun c => ⟨[⟨query, (ch.answer query c.session c.world).1⟩], rfl, met c.session c.world⟩

theorem mapFault {talk : Attempt (Conversation σ ω) α} {f : Fault → Fault}
    (told : Adds talk fun exchanges outcome => condition exchanges (outcome.mapError f)) :
    Adds (talk.mapFault f) condition :=
  told

theorem weaken {talk : Attempt (Conversation σ ω) α}
    {weaker : List Exchange → Except Fault α → Prop}
    (added : Adds talk condition)
    (enough : ∀ exchanges outcome, condition exchanges outcome → weaker exchanges outcome) :
    Adds talk weaker := by
  intro c
  obtain ⟨exchanges, recorded, met⟩ := added c
  exact ⟨exchanges, recorded, enough exchanges _ met⟩

/-- Of two talks one after the other, the second one only takes place if the first one succeeds. -/
theorem bind {first : Attempt (Conversation σ ω) α} {next : α → Attempt (Conversation σ ω) β}
    {later : α → List Exchange → Except Fault β → Prop}
    {both : List Exchange → Except Fault β → Prop}
    (begun : Adds first condition) (goesOn : ∀ a, Adds (next a) (later a))
    (failed : ∀ exchanges fault, condition exchanges (.error fault) → both exchanges (.error fault))
    (joined : ∀ exchanges a more outcome, condition exchanges (.ok a) → later a more outcome →
      both (exchanges ++ more) outcome) :
    Adds (first >>= next) both := by
  intro c
  obtain ⟨exchanges, recorded, met⟩ := begun c
  rcases outcome : first c with ⟨fault | a, between⟩
  · rw [outcome] at recorded met
    rw [Attempt.bind_of_error outcome]
    exact ⟨exchanges, recorded, failed exchanges fault met⟩
  · rw [outcome] at recorded met
    rw [Attempt.bind_of_ok outcome]
    obtain ⟨more, recordedLater, metLater⟩ := goesOn a between
    refine ⟨exchanges ++ more, ?_, joined exchanges a more _ met metLater⟩
    rw [recordedLater, recorded, List.map_append, List.append_assoc]

end Adds

/-! ## Questions -/

/-- Whatever comes of them, the talk asks these questions. -/
def Asks (talk : Attempt (Conversation σ ω) α) (queries : List Query) : Prop :=
  Adds talk fun exchanges _ => exchanges.map Exchange.query = queries

namespace Asks

/-- After its opening a talk goes on, if it does, without another question. -/
theorem opening {first : Attempt (Conversation σ ω) α}
    {next : α → Attempt (Conversation σ ω) β} {queries : List Query} (asked : Asks first queries)
    (silent : ∀ a, Asks (next a) []) : Asks (first >>= next) queries := by
  refine Adds.bind asked silent (fun _ _ same => same) fun exchanges a more _ same none => ?_
  rw [List.map_append, same, none, List.append_nil]

theorem ask (query : Query) (f : Fault → Fault) : Asks ((ch.ask query).mapFault f) [query] :=
  Adds.mapFault (Adds.ask fun _ _ => rfl)

end Asks

end Clearance.Cluster
