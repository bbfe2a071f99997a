import Clearance.Check.Identity
import Clearance.Check.Index
import Clearance.Proofs.Cluster.Visit
import Clearance.Proofs.Outcome

/-!
# In one session

The questions of a talk are put to one session, each to what the one before left of the session and
the world. Visits to the cluster that follow each other share the world only: each of them begins
with a session that is new, and goes on with its session until this is stopped.

Results:
1. `Held`, `Sessions`: the questions of a session, and sessions one after the other.
2. `Conducts`, `Conducts.bind`: a talk that keeps to its session, and how such talks are made.
3. `conducts_name`, `conducts_reading`, `conducts_writing`: the checks are such talks.
-/

namespace Clearance

/-- No errand tells another fault as a misuse, or a misuse as another fault. -/
theorem Fault.onErrand_eq_misuse {fault : Fault} {errand : Errand} {m : MisuseFault} :
    fault.onErrand errand = .misuse m ↔ fault = .misuse m := by
  cases fault <;> simp [onErrand]

namespace Cluster

variable {σ ω α β : Type} {ch : Channel σ ω}

/-! ## Sessions -/

/-- The questions are put to a session in a world one after the other, with these outcomes, and
leave the last session and world. -/
inductive Held (ch : Channel σ ω) : σ → ω → List Exchange → σ → ω → Prop
  | silent {session : σ} {world : ω} : Held ch session world [] session world
  | asked {query : Query} {outcome : Except Fault query.Answer} {session next last : σ}
      {world between after : ω} {exchanges : List Exchange}
      (answer : ch.answer query session world = (outcome, next, between))
      (later : Held ch next between exchanges last after) :
      Held ch session world (⟨query, outcome⟩ :: exchanges) last after

theorem Held.append {session next last : σ} {world between after : ω}
    {exchanges more : List Exchange} (first : Held ch session world exchanges next between)
    (second : Held ch next between more last after) :
    Held ch session world (exchanges ++ more) last after := by
  induction first with
  | silent => exact second
  | asked answer _ ih => exact .asked answer (ih second)

theorem Held.one {query : Query} {outcome : Except Fault query.Answer} {session last : σ}
    {world after : ω} (answer : ch.answer query session world = (outcome, last, after)) :
    Held ch session world [⟨query, outcome⟩] last after :=
  .asked answer .silent

/-- The visits follow each other in a world. Each of them is a session that is started for it on its
nodes, whatever the settings are at the time. Once its last question has been put to it the session
is stopped, and it is in the world after this that the next visit begins. Nobody asks a session of
another visit. -/
inductive Sessions (ch : Channel σ ω) : ω → List Visit → ω → Prop
  | none {world : ω} : Sessions ch world [] world
  | visit {settings : Settings} {nodes : List String} {exchanges : List Exchange}
      {rest : List Visit} {last : σ} {world between after : ω}
      (held : Held ch (ch.start settings nodes) world exchanges last between)
      (later : Sessions ch (ch.stop last between).2 rest after) :
      Sessions ch world (⟨nodes, exchanges⟩ :: rest) after

theorem Sessions.append {world between after : ω} {visits more : List Visit}
    (first : Sessions ch world visits between) (second : Sessions ch between more after) :
    Sessions ch world (visits ++ more) after := by
  induction first with
  | none => exact second
  | visit held _ ih => exact .visit held (ih second)

/-! ## Talks -/

/-- What a talk did in its session: its questions, which were on the topic, were put to it, and of a
misuse it tells only where a question came to it. -/
structure Conducted (ch : Channel σ ω) (topic : Query → Prop) (c : Conversation σ ω)
    (exchanges : List Exchange) (result : Except Fault α × Conversation σ ω) : Prop where
  recorded : result.2.journal.events = c.journal.events ++ exchanges.map Exchange.event
  held : Held ch c.session c.world exchanges result.2.session result.2.world
  onTopic : ∀ e ∈ exchanges, topic e.query
  misuse : ∀ m, result.1 = .error (.misuse m) → ∃ e ∈ exchanges, e.outcome = .error (.misuse m)

/-- The talk keeps to its session, and to a topic. -/
def Conducts (ch : Channel σ ω) (topic : Query → Prop) (talk : Attempt (Conversation σ ω) α) :
    Prop :=
  ∀ c, ∃ exchanges, Conducted ch topic c exchanges (talk c)

namespace Conducts

variable {topic : Query → Prop}

theorem ofExcept {r : Except Fault α} (own : ∀ m, r ≠ .error (.misuse m)) :
    Conducts ch topic (Attempt.ofExcept r : Attempt (Conversation σ ω) α) :=
  fun _ => ⟨[], (List.append_nil _).symm, .silent,
    fun _ present => absurd present List.not_mem_nil, fun m failed => absurd failed (own m)⟩

theorem pure (a : α) : Conducts ch topic (Pure.pure a : Attempt (Conversation σ ω) α) :=
  ofExcept (r := .ok a) nofun

theorem fail {fault : Fault} (own : ∀ m, fault ≠ .misuse m) :
    Conducts ch topic (Attempt.fail fault : Attempt (Conversation σ ω) α) :=
  ofExcept (r := .error fault) fun m same => own m (Except.error.inj same)

theorem require {holds : Bool} {fault : Fault} (own : ∀ m, fault ≠ .misuse m) :
    Conducts ch topic (Attempt.require holds fault : Attempt (Conversation σ ω) Unit) := by
  cases holds with
  | true => exact pure ()
  | false => exact fail own

theorem say (note : Note) :
    Conducts ch topic (Cluster.say note : Attempt (Conversation σ ω) Unit) :=
  fun _ => ⟨[], (List.append_nil _).symm, .silent,
    fun _ present => absurd present List.not_mem_nil, nofun⟩

theorem ask {query : Query} (asked : topic query) : Conducts ch topic (ch.ask query) := by
  refine fun c => ⟨[⟨query, (ch.answer query c.session c.world).1⟩], rfl, .one rfl, ?_, ?_⟩
  · intro e present
    cases List.mem_singleton.mp present
    exact asked
  · exact fun m failed => ⟨_, List.mem_singleton_self _, failed⟩

theorem onErrand {talk : Attempt (Conversation σ ω) α} (conducts : Conducts ch topic talk)
    (errand : Errand) : Conducts ch topic (talk.onErrand errand) := by
  intro c
  obtain ⟨exchanges, conducted⟩ := conducts c
  refine ⟨exchanges, conducted.recorded, conducted.held, conducted.onTopic, fun m failed => ?_⟩
  obtain ⟨fault, outcome, same⟩ := mapError_eq_error.mp failed
  exact conducted.misuse m (outcome.trans (congrArg _ (Fault.onErrand_eq_misuse.mp same)))

/-- Of two talks one after the other, the second one goes on in the session of the first one. -/
theorem bind {first : Attempt (Conversation σ ω) α} {next : α → Attempt (Conversation σ ω) β}
    (begun : Conducts ch topic first) (goesOn : ∀ a, Conducts ch topic (next a)) :
    Conducts ch topic (first >>= next) := by
  intro c
  obtain ⟨exchanges, early⟩ := begun c
  rcases outcome : first c with ⟨fault | a, between⟩
  · rw [outcome] at early
    rw [Attempt.bind_of_error outcome]
    refine ⟨exchanges, early.recorded, early.held, early.onTopic, fun m failed => ?_⟩
    exact early.misuse m (by cases failed; rfl)
  · rw [outcome] at early
    rw [Attempt.bind_of_ok outcome]
    obtain ⟨more, late⟩ := goesOn a between
    refine ⟨exchanges ++ more, ?_, early.held.append late.held, fun e present => ?_,
      fun m failed => ?_⟩
    · rw [late.recorded, early.recorded, List.map_append, List.append_assoc]
    · rcases List.mem_append.mp present with present | present
      · exact early.onTopic e present
      · exact late.onTopic e present
    · obtain ⟨e, present, same⟩ := late.misuse m failed
      exact ⟨e, List.mem_append_right _ present, same⟩

end Conducts

end Cluster

/-! ## The checks -/

namespace Check

open Cluster (Channel Conducts Query)

variable {σ ω : Type} (ch : Channel σ ω)

/-- The question is about an index. -/
def AboutIndex (query : Query) : Prop :=
  ∃ index, query = .presence index ∨ query = .health index

theorem conducts_name (s : Settings) : Conducts ch (· = .name) (name ch s) := by
  rw [name]
  cases stated s.clusterName with
  | none => exact Conducts.fail nofun
  | some wanted =>
    have asked : Conducts ch (· = .name) (ch.ask .name) := Conducts.ask rfl
    exact Conducts.bind (asked.onErrand _) fun actual => Conducts.require nofun

theorem conducts_health (index : String) : Conducts ch AboutIndex (health ch index) := by
  refine (Conducts.ask ⟨index, .inl rfl⟩).bind fun found => ?_
  cases found with
  | true => exact (Conducts.ask ⟨index, .inr rfl⟩).bind fun health => Conducts.pure _
  | false => exact (Conducts.say _).bind fun _ => Conducts.pure _

theorem conducts_reading (s : Settings) : Conducts ch AboutIndex (reading ch s) := by
  refine Conducts.bind (Conducts.ofExcept fun m => ?_) fun _ => ?_
  · rw [noPattern]
    split <;> nofun
  · rw [notRed]
    cases s.allowRedReads with
    | true => exact Conducts.pure ()
    | false =>
      cases stated s.readIndex with
      | none => exact Conducts.fail nofun
      | some index =>
        exact ((conducts_health ch index).onErrand _).bind fun health => Conducts.require nofun

theorem conducts_writing (s : Settings) : Conducts ch AboutIndex (writing ch s) := by
  rw [writing]
  cases s.autoCreateIndex with
  | true => exact Conducts.pure ()
  | false =>
    cases stated s.writeIndex with
    | none => exact Conducts.fail nofun
    | some index =>
      exact ((Conducts.ask ⟨index, .inl rfl⟩).onErrand _).bind fun found => Conducts.require nofun

end Check

end Clearance
