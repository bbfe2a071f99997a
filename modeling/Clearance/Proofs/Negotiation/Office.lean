import Clearance.Negotiation.Step
import Clearance.Proofs.Negotiation.Sessions
import Clearance.Proofs.Rest.Traffic
import Clearance.Proofs.Settings.Address

/-!
# Several negotiations at one desk

Any number of negotiations can be made at a desk, one by one or by going through with them at once,
and their steps can be taken in any order, while the caller assigns the settings as they like. All
of them share the settings, the world and the journal.

Results:
1. `Does`, `does_take`: everything that an act can do.
2. `act_attended`: the sessions that an act opens, and that a misuse which it ends with was told in
   one of them.
3. `session_discipline`: whatever happens, sessions are opened and closed one after the other, none
   is asked when it is closed, and silent acts open none.
-/

namespace Clearance

/-- Negotiations that share a desk. -/
structure Office (ω : Type) where
  desk : Desk ω
  negotiations : List Negotiation := []

namespace Negotiation

open Cluster (Channel Visit)

variable {σ ω : Type} {ch : Channel σ ω} {office : Office ω}

/-! ## Acts -/

/-- Something that may happen in an office. -/
inductive Act where
  /-- A negotiation is made from the settings as they are. -/
  | make
  /-- A negotiation is made and gone through with; only if it succeeds it is there afterwards. -/
  | negotiate
  /-- A step of one of the negotiations, by its place. -/
  | step (i : Nat) (step : Step)
  /-- The caller changes the settings. -/
  | assign (change : Settings → Settings)

/-- Does an act. A step of a negotiation that is not there does nothing. -/
def Act.take (ch : Channel σ ω) : Act → Office ω → Except Fault Reply × Office ω
  | .make, office =>
    match Negotiation.ofSettings office.desk.settings with
    | .error fault => (.error fault, office)
    | .ok n => (.ok .done, { office with negotiations := office.negotiations ++ [n] })
  | .negotiate, office =>
    match Negotiation.negotiate ch office.desk with
    | (.error fault, desk) => (.error fault, { office with desk })
    | (.ok n, desk) => (.ok .done, ⟨desk, office.negotiations ++ [n]⟩)
  | .step i taken, office =>
    match office.negotiations[i]? with
    | none => (.ok .done, office)
    | some n =>
      let (outcome, scene) := taken.take ch ⟨office.desk, n⟩
      (outcome, ⟨scene.desk, office.negotiations.set i scene.negotiation⟩)
  | .assign change, office =>
    (.ok .done,
      { office with desk := { office.desk with settings := change office.desk.settings } })

/-- The office after some acts, each of which may have failed. -/
def work (ch : Channel σ ω) : List Act → Office ω → Office ω
  | [], office => office
  | act :: rest, office => work ch rest (act.take ch office).2

/-- What comes of the acts. -/
def answers (ch : Channel σ ω) : List Act → Office ω → List (Except Fault Reply)
  | [], _ => []
  | act :: rest, office => (act.take ch office).1 :: answers ch rest (act.take ch office).2

/-- The act does not open a session: it only makes a negotiation, or none can be made, or it is a
step that is silent. -/
def Act.Silent (office : Office ω) : Act → Prop
  | .make | .assign _ => True
  | .negotiate => ∃ fault, Negotiation.ofSettings office.desk.settings = .error fault
  | .step i taken => ∀ n, office.negotiations[i]? = some n → taken.Silent ⟨office.desk, n⟩

/-- Everything that an act can do. -/
inductive Does (ch : Channel σ ω) (office : Office ω) : Act → Except Fault Reply × Office ω → Prop
  | refused {act : Act} {fault : Fault} (making : act = .make ∨ act = .negotiate)
      (made : Negotiation.ofSettings office.desk.settings = .error fault) :
      Does ch office act (.error fault, office)
  | made {n : Negotiation} (made : Negotiation.ofSettings office.desk.settings = .ok n) :
      Does ch office .make (.ok .done, ⟨office.desk, office.negotiations ++ [n]⟩)
  | failed {n : Negotiation} {fault : Fault} {scene : Scene ω}
      (made : Negotiation.ofSettings office.desk.settings = .ok n)
      (settled : settle ch ⟨office.desk, n⟩ = (.error fault, scene)) :
      Does ch office .negotiate (.error fault, ⟨scene.desk, office.negotiations⟩)
  | settled {n : Negotiation} {nodes : List String} {scene : Scene ω}
      (made : Negotiation.ofSettings office.desk.settings = .ok n)
      (settled : settle ch ⟨office.desk, n⟩ = (.ok nodes, scene)) :
      Does ch office .negotiate
        (.ok .done, ⟨scene.desk, office.negotiations ++ [scene.negotiation]⟩)
  | nobody {i : Nat} {step : Step} (nobody : office.negotiations[i]? = none) :
      Does ch office (.step i step) (.ok .done, office)
  | stepped {i : Nat} {step : Step} {n : Negotiation} {outcome : Except Fault Reply}
      {scene : Scene ω} (present : office.negotiations[i]? = some n)
      (taken : step.take ch ⟨office.desk, n⟩ = (outcome, scene)) :
      Does ch office (.step i step)
        (outcome, ⟨scene.desk, office.negotiations.set i scene.negotiation⟩)
  | assigned {change : Settings → Settings} :
      Does ch office (.assign change)
        (.ok .done, ⟨{ office.desk with settings := change office.desk.settings },
          office.negotiations⟩)

theorem negotiate_of_refused (ch : Channel σ ω) {desk : Desk ω} {fault : Fault}
    (made : Negotiation.ofSettings desk.settings = .error fault) :
    negotiate ch desk = (.error fault, desk) := by
  rw [negotiate, made]

theorem negotiate_of_made (ch : Channel σ ω) {desk : Desk ω} {n : Negotiation}
    (made : Negotiation.ofSettings desk.settings = .ok n) :
    negotiate ch desk =
      ((settle ch ⟨desk, n⟩).1.map fun _ => (settle ch ⟨desk, n⟩).2.negotiation,
        (settle ch ⟨desk, n⟩).2.desk) := by
  rw [negotiate, made]

theorem does_take (ch : Channel σ ω) (office : Office ω) (act : Act) :
    Does ch office act (act.take ch office) := by
  cases act with
  | make =>
    rw [Act.take]
    split
    · next fault made => exact .refused (.inl rfl) made
    · next n made => exact .made made
  | negotiate =>
    rw [Act.take]
    cases made : Negotiation.ofSettings office.desk.settings with
    | error fault =>
      rw [negotiate_of_refused ch made]
      exact .refused (.inr rfl) made
    | ok n =>
      rw [negotiate_of_made ch made]
      rcases settled : settle ch ⟨office.desk, n⟩ with ⟨fault | nodes, scene⟩
      · exact .failed made settled
      · exact .settled made settled
  | step i step =>
    rw [Act.take]
    split
    · next nobody => exact .nobody nobody
    · next n present => exact .stepped present rfl
  | assign change => exact .assigned

/-! ## Sessions -/

/-- Declared nodes that cannot be read are no misuse. -/
theorem ofSettings_of_misuse {s : Settings} (m : MisuseFault) :
    Negotiation.ofSettings s ≠ .error (.misuse m) := by
  intro failed
  rcases (Settings.declared_refusals s).2.2.told failed with ⟨own, _, _, same, -⟩ | ⟨flaw, -, same⟩
  all_goals cases same

theorem act_attended (ch : Channel σ ω) (office : Office ω) (act : Act) :
    ∃ visits, Attended ch office.desk visits (act.take ch office).2.desk ∧
      (act.Silent office → visits = []) ∧
      ∀ m, (act.take ch office).1 = .error (.misuse m) →
        ∃ e ∈ visits.flatMap Visit.exchanges, e.outcome = .error (.misuse m) := by
  have does := does_take ch office act
  generalize act.take ch office = result at does ⊢
  cases does with
  | refused making made =>
    refine ⟨[], .none rfl rfl, fun _ => rfl, fun m failed => ?_⟩
    rw [Except.error.inj failed] at made
    exact absurd made (ofSettings_of_misuse m)
  | made => exact ⟨[], .none rfl rfl, fun _ => rfl, nofun⟩
  | failed made settled =>
    obtain ⟨visits, toured⟩ := settle_toured ch ⟨office.desk, _⟩
    rw [settled] at toured
    refine ⟨visits, toured.attended, ?_, fun m failed => toured.misuse m (by cases failed; rfl)⟩
    rintro ⟨fault, refused⟩
    rw [refused] at made
    cases made
  | settled made settled =>
    obtain ⟨visits, toured⟩ := settle_toured ch ⟨office.desk, _⟩
    rw [settled] at toured
    refine ⟨visits, toured.attended, ?_, nofun⟩
    rintro ⟨fault, refused⟩
    rw [refused] at made
    cases made
  | nobody => exact ⟨[], .none rfl rfl, fun _ => rfl, nofun⟩
  | @stepped i step n outcome scene present taken =>
    obtain ⟨visits, toured, silent⟩ := take_toured ch step ⟨office.desk, n⟩
    rw [taken] at toured
    exact ⟨visits, toured.attended, fun quiet => silent (quiet n present), toured.misuse⟩
  | assigned => exact ⟨[], .none rfl rfl, fun _ => rfl, nofun⟩

theorem work_attended (ch : Channel σ ω) (history : List Act) (office : Office ω) :
    ∃ visits, Attended ch office.desk visits (work ch history office).desk := by
  induction history generalizing office with
  | nil => exact ⟨[], .none rfl rfl⟩
  | cons act rest ih =>
    obtain ⟨visits, attended, -⟩ := act_attended ch office act
    obtain ⟨more, later⟩ := ih (act.take ch office).2
    exact ⟨visits ++ more, attended.append later⟩

/-- Whatever was done and assigned before, and whatever questions come to: the sessions of an act
follow those of the acts before it, each of them is stopped and recorded as closed before the next
one is opened and before the act ends, all questions of an act are put to the open session, and a
silent act opens none. So over REST, where only the client could complain of a session that has been
closed, an act ends with nothing that the client does not raise while it is open. -/
theorem session_discipline :
    (∀ {σ ω : Type} (ch : Channel σ ω) (office : Office ω) (history : List Act) (act : Act),
      let now := work ch history office
      ∃ earlier visits, Attended ch office.desk earlier now.desk ∧
        Attended ch now.desk visits (act.take ch now).2.desk ∧ (act.Silent now → visits = [])) ∧
    ∀ {ω : Type} (client : Http.Client ω) (office : Office (Rest.Line ω)) (history : List Act)
      (act : Act) (own : MisuseFault),
      (act.take (Rest.channel client) (work (Rest.channel client) history office)).1 =
        .error (.misuse own) → client.Raises false own := by
  constructor
  · intro σ ω ch office history act now
    obtain ⟨earlier, before⟩ := work_attended ch history office
    obtain ⟨visits, attended, silent, -⟩ := act_attended ch now act
    exact ⟨earlier, visits, before, attended, silent⟩
  · intro ω client office history act own failed
    obtain ⟨visits, attended, -, misuse⟩ := act_attended (Rest.channel client) _ act
    obtain ⟨e, present, told⟩ := misuse own failed
    rcases Rest.sessions_ordinary attended.sessions present told with
      (⟨reason, same⟩ | ⟨_, same, raises⟩) | ⟨_, same⟩
    · cases same
    · cases same
      exact raises
    · cases same

end Negotiation

end Clearance
