import Clearance.Check.Identity
import Clearance.Check.Index
import Clearance.Proofs.Cluster.Visit
import Clearance.Roster.Agreed

/-!
# Faults on their way to the caller

A question that the cluster cannot answer comes to a fault of transport. No check hands it on to its
caller: it is told as a fault of the configuration that has it as its cause. So from what is told
one can see whether the last question was answered, and if not, why.

Results:
1. `Traced`: an outcome by which the fault of the last question is known.
2. `Passes.ask`, `Passes.tell`, `Traces.bind`: how talks with such outcomes are made.
3. `tells_name`, `tells_discover`, `tells_restrict`, `tells_version`, `tells_reading`,
   `tells_writing`: every talk is one of them.
-/

namespace Clearance

/-- A fault that has a cause is one of the configuration in the narrow sense. -/
theorem Fault.plain_of_cause {fault origin : Fault} (caused : fault.cause = some origin) :
    ∃ own, fault = .configuration own := by
  cases fault with
  | configuration own => exact ⟨own, rfl⟩
  | shortage s | transport r | general m | value v | misuse m | shape s => cases caused

namespace Cluster

variable {σ ω α β : Type} {ch : Channel σ ω}

/-! ## Outcomes -/

/-- The fault of an outcome, if it has one. -/
def faultOf : Except Fault α → Option Fault
  | .ok _ => none
  | .error fault => some fault

/-- The fault that the last question came to, if it got no answer. -/
def lastFault (exchanges : List Exchange) : Option Fault :=
  exchanges.getLast?.bind fun e => faultOf e.outcome

/-- The questions came to no other faults than those of transport. -/
def Honest (exchanges : List Exchange) : Prop :=
  ∀ e ∈ exchanges, ∀ fault, e.outcome = .error fault → ∃ reason, fault = .transport reason

instance : (fault : Fault) → Decidable (∃ reason, fault = .transport reason)
  | .transport reason => isTrue ⟨reason, rfl⟩
  | .configuration _ | .shortage _ | .general _ | .value _ | .misuse _ | .shape _ =>
    isFalse fun ⟨_, same⟩ => nomatch same

instance : (outcome : Except Fault α) →
    Decidable (∀ fault, outcome = .error fault → ∃ reason, fault = .transport reason)
  | .ok _ => isTrue nofun
  | .error fault =>
    decidable_of_iff (∃ reason, fault = .transport reason)
      ⟨fun transported _ same => Except.error.inj same ▸ transported, fun all => all fault rfl⟩

instance (exchanges : List Exchange) : Decidable (Honest exchanges) :=
  inferInstanceAs (Decidable (∀ e ∈ exchanges, _))

/-- What came of the questions was answered by the channel. -/
def Genuine (ch : Channel σ ω) (exchanges : List Exchange) : Prop :=
  ∀ e ∈ exchanges, ∃ session world, (ch.answer e.query session world).1 = e.outcome

theorem Genuine.nil : Genuine ch [] :=
  fun _ present => absurd present List.not_mem_nil

theorem Genuine.append {exchanges more : List Exchange} (early : Genuine ch exchanges)
    (late : Genuine ch more) : Genuine ch (exchanges ++ more) := by
  intro e present
  rcases List.mem_append.mp present with present | present
  · exact early e present
  · exact late e present

theorem Honest.append {exchanges more : List Exchange} (honest : Honest (exchanges ++ more)) :
    Honest exchanges ∧ Honest more :=
  ⟨fun e present => honest e (List.mem_append_left _ present),
    fun e present => honest e (List.mem_append_right _ present)⟩

theorem lastFault_append {exchanges : List Exchange} (answered : lastFault exchanges = none)
    (more : List Exchange) : lastFault (exchanges ++ more) = lastFault more := by
  rw [lastFault, lastFault, List.getLast?_append]
  cases last : more.getLast? with
  | none => exact answered
  | some e => rfl

/-- The faults of the outcome are of a kind, and behind each of them is the fault that the last
question came to: `origin` tells it. -/
structure Traced (origin : Fault → Option Fault) (kind : Fault → Prop) (exchanges : List Exchange)
    (outcome : Except Fault α) : Prop where
  ofKind : ∀ {fault}, outcome = .error fault → kind fault
  last : lastFault exchanges = (faultOf outcome).bind origin

variable {origin : Fault → Option Fault} {kind : Fault → Prop}

namespace Traced

theorem ok (a : α) : Traced origin kind [] (.ok a) where
  ofKind same := by cases same
  last := rfl

/-- A fault that no question came to. -/
theorem fault {own : Fault} (ofKind : kind own) (groundless : origin own = none) :
    Traced origin kind [] (.error own : Except Fault α) where
  ofKind same := by
    cases same
    exact ofKind
  last := groundless.symm

/-- After questions that were answered only the later ones count. -/
theorem append {exchanges more : List Exchange} {a : α} {outcome : Except Fault β}
    (answered : Traced origin kind exchanges (.ok a)) (later : Traced origin kind more outcome) :
    Traced origin kind (exchanges ++ more) outcome where
  ofKind := later.ofKind
  last := by rw [lastFault_append answered.last, later.last]

/-- A fault stays what it is if another answer would have been given. -/
theorem ofError {exchanges : List Exchange} {own : Fault}
    (traced : Traced origin kind exchanges (.error own : Except Fault α)) :
    Traced origin kind exchanges (.error own : Except Fault β) where
  ofKind same := by
    cases same
    exact traced.ofKind rfl
  last := traced.last

end Traced

/-! ## Talks -/

/-- The talk asks the channel, and its outcomes are traced, provided that the questions come to no
other faults than those of transport. -/
def Traces (ch : Channel σ ω) (origin : Fault → Option Fault) (kind : Fault → Prop)
    (talk : Attempt (Conversation σ ω) α) : Prop :=
  Adds talk fun exchanges outcome =>
    Genuine ch exchanges ∧ (Honest exchanges → Traced origin kind exchanges outcome)

/-- The talk passes on the faults of its questions as they are. -/
def Passes (ch : Channel σ ω) (talk : Attempt (Conversation σ ω) α) : Prop :=
  Traces ch some (fun fault => ∃ reason, fault = .transport reason) talk

/-- The talk tells every fault as one of the configuration, with the fault of its last question as
the cause. -/
def Tells (ch : Channel σ ω) (talk : Attempt (Conversation σ ω) α) : Prop :=
  Traces ch Fault.cause (·.isConfiguration = true) talk

namespace Traces

theorem pure (a : α) : Traces ch origin kind (Pure.pure a : Attempt (Conversation σ ω) α) :=
  Adds.pure ⟨.nil, fun _ => .ok a⟩

theorem say (note : Note) :
    Traces ch origin kind (Cluster.say note : Attempt (Conversation σ ω) Unit) :=
  Adds.say ⟨.nil, fun _ => .ok ()⟩

theorem fail {own : Fault} (ofKind : kind own) (groundless : origin own = none) :
    Traces ch origin kind (Attempt.fail own : Attempt (Conversation σ ω) α) :=
  Adds.fail ⟨.nil, fun _ => .fault ofKind groundless⟩

theorem require {holds : Bool} {own : Fault} (ofKind : kind own) (groundless : origin own = none) :
    Traces ch origin kind (Attempt.require holds own : Attempt (Conversation σ ω) Unit) :=
  Adds.require ⟨.nil, fun _ => .ok ()⟩ ⟨.nil, fun _ => .fault ofKind groundless⟩

theorem ofExcept {r : Except Fault α}
    (groundless : ∀ {own}, r = .error own → kind own ∧ origin own = none) :
    Traces ch origin kind (Attempt.ofExcept r : Attempt (Conversation σ ω) α) := by
  cases r with
  | ok a => exact pure a
  | error own => exact fail (groundless rfl).1 (groundless rfl).2

theorem bind {first : Attempt (Conversation σ ω) α} {next : α → Attempt (Conversation σ ω) β}
    (begun : Traces ch origin kind first) (goesOn : ∀ a, Traces ch origin kind (next a)) :
    Traces ch origin kind (first >>= next) := by
  refine Adds.bind begun goesOn ?_ ?_
  · rintro exchanges own ⟨genuine, traced⟩
    exact ⟨genuine, fun honest => (traced honest).ofError⟩
  · rintro exchanges a more outcome ⟨genuine, traced⟩ ⟨genuineLater, later⟩
    refine ⟨genuine.append genuineLater, fun honest => ?_⟩
    obtain ⟨early, late⟩ := honest.append
    exact (traced early).append (later late)

end Traces

namespace Passes

theorem ask (query : Query) : Passes ch (ch.ask query) := by
  unfold Passes Traces
  refine Adds.ask fun session world => ⟨fun e present => ?_, fun honest => ⟨fun failed => ?_, ?_⟩⟩
  · cases List.mem_singleton.mp present
    exact ⟨session, world, rfl⟩
  · exact honest _ List.mem_cons_self _ failed
  · cases (ch.answer query session world).1 <;> rfl

/-- Faults that are passed on so far are told from here on. -/
theorem tell {talk : Attempt (Conversation σ ω) α} (passes : Passes ch talk) {f : Fault → Fault}
    (told : ∀ reason, (f (.transport reason)).isConfiguration = true)
    (caused : ∀ reason, (f (.transport reason)).cause = some (.transport reason)) :
    Tells ch (talk.mapFault f) := by
  unfold Passes Traces at passes
  unfold Tells Traces
  refine Adds.mapFault (passes.weaken ?_)
  rintro exchanges outcome ⟨genuine, traced⟩
  refine ⟨genuine, fun honest => ?_⟩
  cases outcome with
  | ok a => exact ⟨nofun, (traced honest).last⟩
  | error own =>
    obtain ⟨reason, rfl⟩ := (traced honest).ofKind rfl
    refine ⟨fun same => ?_, (traced honest).last.trans (caused reason).symm⟩
    cases same
    exact told reason

theorem onErrand {talk : Attempt (Conversation σ ω) α} (passes : Passes ch talk) (errand : Errand) :
    Tells ch (talk.onErrand errand) :=
  passes.tell (fun _ => rfl) fun _ => rfl

end Passes

end Cluster

open Cluster (Channel Passes Tells Traces)

variable {σ ω : Type} (ch : Channel σ ω)

/-! ## The checks -/

namespace Check

theorem tells_name (s : Settings) : Tells ch (name ch s) := by
  rw [name]
  cases stated s.clusterName with
  | none => exact Traces.fail rfl rfl
  | some wanted =>
    exact Traces.bind ((Passes.ask .name).onErrand _) fun actual => Traces.require rfl rfl

theorem tells_version (s : Settings) : Tells ch (version ch s) := by
  rw [version]
  cases stated s.recordedVersion with
  | some recorded =>
    refine (Traces.say _).bind fun _ => ?_
    cases Version.read recorded with
    | ok v => exact Traces.pure _
    | error flaw => exact Traces.fail rfl rfl
  | none =>
    exact Traces.bind ((Passes.ask .version).tell (fun _ => rfl) fun _ => rfl) fun v =>
      (Traces.say _).bind fun _ => Traces.pure _

theorem passes_health (index : String) : Passes ch (health ch index) := by
  refine Traces.bind (Passes.ask (.presence index)) fun found => ?_
  cases found with
  | true => exact Traces.bind (Passes.ask (.health index)) fun health => Traces.pure _
  | false => exact (Traces.say _).bind fun _ => Traces.pure _

theorem tells_notRed (s : Settings) : Tells ch (notRed ch s) := by
  rw [notRed]
  cases s.allowRedReads with
  | true => exact Traces.pure ()
  | false =>
    cases stated s.readIndex with
    | none => exact Traces.fail rfl rfl
    | some index =>
      exact Traces.bind ((passes_health ch index).onErrand _) fun health => Traces.require rfl rfl

theorem tells_reading (s : Settings) : Tells ch (reading ch s) := by
  refine Traces.bind (Traces.ofExcept fun failed => ?_) fun _ => tells_notRed ch s
  rw [noPattern] at failed
  split at failed
  · cases failed
    exact ⟨rfl, rfl⟩
  · cases failed

theorem tells_writing (s : Settings) : Tells ch (writing ch s) := by
  rw [writing]
  cases s.autoCreateIndex with
  | true => exact Traces.pure ()
  | false =>
    cases stated s.writeIndex with
    | none => exact Traces.fail rfl rfl
    | some index =>
      exact Traces.bind ((Passes.ask (.presence index)).onErrand _) fun found =>
        Traces.require rfl rfl

end Check

/-! ## The roster -/

namespace Roster

theorem tells_discover (r : Roster) : Tells ch (r.discover ch) := by
  rw [discover]
  cases r.discoveryEnabled with
  | true =>
    exact Traces.bind ((Passes.ask (.nodes .any)).onErrand _) fun found =>
      (Traces.say _).bind fun _ => Traces.pure _
  | false => exact Traces.pure _

theorem tells_restrictTo {role : Role} (proper : role ≠ .any) (r : Roster) :
    Tells ch (restrictTo ch role r) := by
  have narrowed (listed : List String) :
      Tells ch (Attempt.ofExcept ((r.narrow role listed).mapError .shortage)) := by
    refine Traces.ofExcept fun failed => ?_
    cases left : r.narrow role listed with
    | ok u =>
      rw [left] at failed
      cases failed
    | error shortage =>
      rw [left] at failed
      cases failed
      exact ⟨rfl, rfl⟩
  rw [restrictTo, if_neg proper]
  refine Traces.bind ((Passes.ask (.nodes role)).onErrand _) fun listed => ?_
  by_cases empty : listed = []
  · simp only [empty, ne_eq, not_true, if_false]
    exact narrowed []
  · simp only [ne_eq, empty, not_false_eq_true, if_true]
    exact (Traces.say _).bind fun _ => (Traces.say _).bind fun _ => narrowed listed

theorem tells_restrict {r : Roster} (proper : r.restriction ≠ some .any) :
    Tells ch (r.restrict ch) := by
  rw [restrict]
  cases restricted : r.restriction with
  | none => exact Traces.pure r
  | some role => exact tells_restrictTo ch (fun any => proper (by rw [restricted, any])) r

end Roster

end Clearance
