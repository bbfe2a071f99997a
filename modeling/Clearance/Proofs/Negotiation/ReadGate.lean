import Clearance.Proofs.Negotiation.Steps
import Clearance.Proofs.Rest.Failover
import Clearance.Proofs.Settings.Resource

/-!
# The gate before reading

Before an index is read the cluster is asked over REST whether there is one of this name, and if so,
in what health it is. The gate opens only where nothing stands against reading: no failure, no odd
status and no document of another kind lets anyone pass.

Results:
1. `Clear`: what the cluster has to answer.
2. `health_inquired`: the requests about an index, and what becomes of them.
3. `Opening`, `reading_opening`: what the settings decide before the cluster is asked.
4. `read_gate`: when the gate opens, what it says otherwise, and what it sends.
-/

namespace Clearance.Negotiation

open Cluster (Conversation)
open Http (Client Request Response)
open Rest (Finish FirstAnswer Learned Learns Line OfTransport Session StatusIs TellsHealth
  TellsPresence Tried healthPath indexPath)

variable {ω : Type} {client : Client ω}

/-! ## What the cluster has to answer -/

/-- The response tells that an index is green or yellow. -/
def Healthy (response : Response) : Prop :=
  response.status = 200 ∧ ∃ document, Json.readBytes response.body = some (.object document) ∧
    (StatusIs document "green" ∨ StatusIs document "yellow")

/-- The cluster knows no such index, or it knows one and tells that it is healthy. -/
def Clear (client : Client ω) (session : Session) (index : String) (world : ω) : Prop :=
  ∃ heads found between,
    FirstAnswer client session .head (indexPath index) world heads found between ∧
    (found.status = 404 ∨ found.status = 200 ∧ ∃ gets told after,
      FirstAnswer client session .get (healthPath index) between gets told after ∧ Healthy told)

/-- Something else than an error of its own is raised by the client, while it looks for the index or
asks for its health. -/
def Breaks (client : Client ω) (session : Session) (index : String) (world : ω)
    (own : MisuseFault) : Prop :=
  (∃ heads between,
    Tried client session .head (indexPath index) session.nodes world heads (.raised own) between) ∨
  ∃ heads found between,
    FirstAnswer client session .head (indexPath index) world heads found between ∧
      found.status = 200 ∧ ∃ gets after, Tried client session .get (healthPath index) session.nodes
        between gets (.raised own) after

/-! ## Questions about an index -/

/-- What becomes of the questions about an index. -/
structure Inquired (client : Client ω) (session : Session) (index : String) (world : ω)
    (outcome : Except Fault (Option Health)) (heads gets : List Request) : Prop where
  clear : (∃ health, outcome = .ok health ∧ health ≠ some .red) ↔ Clear client session index world
  broken : ∀ own, outcome = .error (.misuse own) ↔ Breaks client session index world own
  untold : ∀ {fault}, outcome = .error fault → OfTransport fault ∨ ∃ own, fault = .misuse own
  headsTo : ∀ r ∈ heads, ∃ node ∈ session.nodes, r = session.requestTo .head (indexPath index) node
  getsTo : ∀ r ∈ gets, ∃ node ∈ session.nodes, r = session.requestTo .get (healthPath index) node
  /-- The health is asked for only if there is such an index. -/
  present : gets ≠ [] → ∃ found between,
    FirstAnswer client session .head (indexPath index) world heads found between ∧
      found.status = 200

theorem healthy_iff {response : Response} :
    Healthy response ↔ ∃ health, health ≠ Health.red ∧ TellsHealth response health := by
  constructor
  · rintro ⟨status, document, read, green | yellow⟩
    · exact ⟨.green, nofun, status, document, read, green⟩
    · exact ⟨.yellow, nofun, status, document, read, yellow⟩
  · rintro ⟨health, notRed, status, document, read, known⟩
    refine ⟨status, document, read, ?_⟩
    cases health with
    | green => exact .inl known
    | yellow => exact .inr known
    | red => exact absurd rfl notRed

theorem healthy_of_learned {finish : Finish} {outcome : Except Fault Health}
    (learned : Learned finish outcome TellsHealth) :
    (∃ health, outcome = .ok health ∧ health ≠ .red) ↔
      ∃ told, finish = .answered told ∧ Healthy told := by
  constructor
  · rintro ⟨health, told, notRed⟩
    obtain ⟨response, same, tells⟩ := (learned.told health).mp told
    exact ⟨response, same, healthy_iff.mpr ⟨health, notRed, tells⟩⟩
  · rintro ⟨response, same, healthy⟩
    obtain ⟨health, notRed, tells⟩ := healthy_iff.mp healthy
    exact ⟨health, (learned.told health).mpr ⟨response, same, tells⟩, notRed⟩

section Inquiries

variable {session : Session} {index : String} {world between : ω} {heads : List Request}
  {finish : Finish}
  (tried : Tried client session .head (indexPath index) session.nodes world heads finish between)
include tried

/-- It depends on the end of the search for the index whether all is clear. -/
theorem clear_of_tried : Clear client session index world ↔ ∃ found, finish = .answered found ∧
    (found.status = 404 ∨ found.status = 200 ∧ ∃ gets told after,
      FirstAnswer client session .get (healthPath index) between gets told after ∧
        Healthy told) :=
  tried.exists_firstAnswer

theorem breaks_of_tried {own : MisuseFault} : Breaks client session index world own ↔
    finish = .raised own ∨ ∃ found, finish = .answered found ∧ found.status = 200 ∧
      ∃ gets after, Tried client session .get (healthPath index) session.nodes between gets
        (.raised own) after := by
  refine or_congr ?_ tried.exists_firstAnswer
  constructor
  · rintro ⟨_, _, other⟩
    exact (tried.unique other).2.1
  · rintro rfl
    exact ⟨heads, between, tried⟩

/-- No status says whether there is such an index. -/
theorem inquired_untold {fault : Fault} (learned : Learned finish (.error fault) TellsPresence) :
    Inquired client session index world (.error fault) heads [] := by
  have untold : ∀ found here, finish = .answered found → ¬ TellsPresence found here := by
    intro found here same tells
    cases (learned.told here).mpr ⟨found, same, tells⟩
  refine ⟨?_, fun own => ?_, fun same => ?_, tried.sent_to, nofun, fun sent => absurd rfl sent⟩
  · rw [clear_of_tried tried]
    refine ⟨nofun, ?_⟩
    rintro ⟨found, same, absent | ⟨present, -⟩⟩
    · exact absurd absent (untold found false same)
    · exact absurd present (untold found true same)
  · have broke : fault = .misuse own ↔ finish = .raised own := by
      rw [← learned.raised own, Except.error.injEq]
    rw [breaks_of_tried tried, Except.error.injEq, broke]
    refine ⟨.inl, ?_⟩
    rintro (broke | ⟨found, same, present, -⟩)
    · exact broke
    · exact absurd present (untold found true same)
  · cases same
    exact learned.untold rfl

theorem inquired_absent (learned : Learned finish (.ok false) TellsPresence) :
    Inquired client session index world (.ok none) heads [] := by
  obtain ⟨found, rfl, status⟩ := (learned.told false).mp rfl
  have absent : found.status = 404 := status
  refine ⟨?_, fun own => ⟨nofun, ?_⟩, nofun, tried.sent_to, nofun, fun sent => absurd rfl sent⟩
  · rw [clear_of_tried tried]
    exact ⟨fun _ => ⟨found, rfl, .inl absent⟩, fun _ => ⟨none, rfl, nofun⟩⟩
  · rw [breaks_of_tried tried]
    rintro (broke | ⟨_, same, present, -⟩)
    · cases broke
    · cases same
      rw [absent] at present
      cases present

/-- There is such an index. Whether it may be read is told by its health alone. -/
theorem inquired_present (learned : Learned finish (.ok true) TellsPresence)
    {after : ω} {gets : List Request} {finishHealth : Finish}
    (triedHealth : Tried client session .get (healthPath index) session.nodes between gets
      finishHealth after)
    {outcome : Except Fault Health} (learnedHealth : Learned finishHealth outcome TellsHealth) :
    Inquired client session index world (outcome.map some) heads gets := by
  obtain ⟨found, rfl, status⟩ := (learned.told true).mp rfl
  have present : found.status = 200 := status
  have clear : Clear client session index world ↔
      ∃ health, outcome = .ok health ∧ health ≠ .red := by
    rw [clear_of_tried tried, healthy_of_learned learnedHealth,
      ← triedHealth.exists_firstAnswer (P := fun told _ => Healthy told)]
    constructor
    · rintro ⟨_, same, absent | ⟨-, healthy⟩⟩
      · cases same
        rw [present] at absent
        cases absent
      · exact healthy
    · intro healthy
      exact ⟨_, rfl, .inr ⟨present, healthy⟩⟩
  have broken : ∀ own, Breaks client session index world own ↔
      outcome = .error (.misuse own) := by
    intro own
    rw [breaks_of_tried tried, learnedHealth.raised own]
    constructor
    · rintro (broke | ⟨_, -, -, _, _, other⟩)
      · cases broke
      · exact (triedHealth.unique other).2.1
    · rintro rfl
      exact .inr ⟨found, rfl, present, gets, after, triedHealth⟩
  refine ⟨?_, fun own => map_eq_error.trans (broken own).symm,
    fun failed => learnedHealth.untold (map_eq_error.mp failed), tried.sent_to, triedHealth.sent_to,
    fun _ => ⟨found, between, tried, present⟩⟩
  rw [clear]
  cases outcome with
  | error fault => exact ⟨nofun, nofun⟩
  | ok health =>
    constructor
    · rintro ⟨_, same, notRed⟩
      cases same
      exact ⟨health, rfl, fun red => notRed (congrArg some red)⟩
    · rintro ⟨_, same, notRed⟩
      cases same
      exact ⟨some health, rfl, fun red => notRed (Option.some.inj red)⟩

end Inquiries

theorem health_inquired (client : Client ω) (session : Session) (index : String)
    (line : Line ω) (journal : Cluster.Journal) :
    ∃ heads gets,
      (Check.health (Rest.channel client) index ⟨session, line, journal⟩).2.world.sent =
        line.sent ++ heads ++ gets ∧
      Inquired client session index line.world
        (Check.health (Rest.channel client) index ⟨session, line, journal⟩).1 heads gets := by
  obtain ⟨world, before⟩ := line
  obtain ⟨heads, finish, between, tried⟩ :=
    Tried.total client session .head (indexPath index) session.nodes world
  obtain ⟨outcome, came, learned⟩ := Learns.presence index _ _ _ _ tried before
  have asked := Rest.ask_of_inquire (.presence index) journal came
  rw [Check.health]
  -- Either no status says anything, or there is no such index, or its health is asked for as well.
  rcases outcome with fault | _ | _
  · rw [Attempt.bind_of_error asked]
    exact ⟨heads, [], (List.append_nil _).symm, inquired_untold tried learned⟩
  · rw [Attempt.bind_of_ok asked]
    exact ⟨heads, [], (List.append_nil _).symm, inquired_absent tried learned⟩
  · obtain ⟨gets, finishHealth, after, triedHealth⟩ :=
      Tried.total client session .get (healthPath index) session.nodes between
    obtain ⟨outcome, came, learnedHealth⟩ :=
      Learns.health index _ _ _ _ triedHealth (before ++ heads)
    rw [Attempt.bind_of_ok asked, if_pos rfl, Attempt.bind_pure_apply,
      Rest.ask_of_inquire (.health index) _ came]
    exact ⟨heads, gets, rfl, inquired_present tried learned triedHealth learnedHealth⟩

/-! ## The gate -/

/-- The index that is read: what stands before the first slash of what is read from, without the
blanks around it. -/
def indexText (s : Settings) : String :=
  String.ofList ((Text.trim (s.readResource.getD "").toList).takeWhile (· != '/'))

/-- Both braces of a pattern are in the text. -/
def Patterned (index : String) : Prop :=
  '\x7b' ∈ index.toList ∧ '\x7d' ∈ index.toList

theorem readIndex_text (s : Settings) : s.readIndex.getD "" = indexText s :=
  Settings.getD_indexOf s.readResource

theorem stated_readIndex (s : Settings) :
    stated s.readIndex = if indexText s = "" then none else some (indexText s) :=
  Settings.stated_indexOf s.readResource

theorem hasPattern_iff {index : String} : Check.hasPattern index = true ↔ Patterned index := by
  simp [Check.hasPattern, Patterned]

/-- How reading begins: the settings are consulted in this order, and the cluster only after all of
them. -/
inductive Opening {σ : Type} (ch : Cluster.Channel σ ω) (s : Settings) (c : Conversation σ ω) :
    Except Fault Unit × Conversation σ ω → Prop
  | patterned (patterned : Patterned (indexText s)) :
      Opening ch s c (.error (.configuration (.patternInReadIndex (indexText s))), c)
  | lenient (plain : ¬ Patterned (indexText s)) (lenient : s.allowRedReads = true) :
      Opening ch s c (.ok (), c)
  | nameless (plain : ¬ Patterned (indexText s)) (careful : s.allowRedReads = false)
      (nameless : indexText s = "") : Opening ch s c (.error (.configuration .noReadResource), c)
  | asking (plain : ¬ Patterned (indexText s)) (careful : s.allowRedReads = false)
      (named : indexText s ≠ "") : Opening ch s c (Check.notRed ch s c)

theorem reading_opening {σ : Type} (ch : Cluster.Channel σ ω) (s : Settings)
    (c : Conversation σ ω) : Opening ch s c (Check.reading ch s c) := by
  have checked : Check.noPattern s =
      if Check.hasPattern (indexText s) then
        .error (.configuration (.patternInReadIndex (indexText s)))
      else .ok () := by
    rw [← readIndex_text]
    rfl
  rw [Check.reading, checked]
  by_cases patterned : Patterned (indexText s)
  · rw [if_pos (hasPattern_iff.mpr patterned)]
    exact .patterned patterned
  rw [if_neg fun has => patterned (hasPattern_iff.mp has)]
  rw [Attempt.bind_of_ok (Attempt.ofExcept_apply (.ok ()) c)]
  cases careful : s.allowRedReads with
  | true =>
    rw [Check.notRed, if_pos careful]
    exact .lenient patterned careful
  | false =>
    by_cases named : indexText s = ""
    · have missing : stated s.readIndex = none := by rw [stated_readIndex, if_pos named]
      rw [Check.notRed, if_neg (by simp [careful]), missing]
      exact .nameless patterned careful named
    · exact .asking patterned careful named

/-- The gate before reading from an index. -/
structure Gate (client : Client ω) (s : Settings) (index : String) (session : Session)
    (line : Line ω) (outcome : Except Fault Unit) (sent : List Request) : Prop where
  opens : outcome = .ok () ↔ ¬ Patterned index ∧
    (s.allowRedReads = true ∨ index ≠ "" ∧ Clear client session index line.world)
  /-- What is raised by the client and is none of its own errors comes through as it is. -/
  breaks : ∀ own, outcome = .error (.misuse own) ↔ ¬ Patterned index ∧
    s.allowRedReads = false ∧ index ≠ "" ∧ Breaks client session index line.world own
  refuses : ∀ {fault}, outcome = .error fault →
    (∃ own, fault = .configuration own) ∨ ∃ own, fault = .misuse own
  /-- First the index is looked for. Its health is asked for only when it has been found. -/
  sends : ∃ heads gets, sent = line.sent ++ heads ++ gets ∧
    (∀ r ∈ heads, ∃ node ∈ session.nodes, r = session.requestTo .head (indexPath index) node) ∧
    (∀ r ∈ gets, ∃ node ∈ session.nodes, r = session.requestTo .get (healthPath index) node) ∧
    (gets ≠ [] → ∃ found between,
      FirstAnswer client session .head (indexPath index) line.world heads found between ∧
        found.status = 200)
  silent : Patterned index ∨ index = "" ∨ s.allowRedReads = true → sent = line.sent

section Gating

variable {s : Settings} {session : Session} {line : Line ω}

theorem refusal {own : ConfigurationFault} {fault : Fault}
    (refused : (.error (.configuration own) : Except Fault Unit) = .error fault) :
    ∃ own, fault = .configuration own := by
  cases refused
  exact ⟨own, rfl⟩

/-- A gate that asks nothing. -/
theorem gate_silent {outcome : Except Fault Unit}
    (quiet : Patterned (indexText s) ∨ indexText s = "" ∨ s.allowRedReads = true)
    (opens : outcome = .ok () ↔ ¬ Patterned (indexText s) ∧ s.allowRedReads = true)
    (refuses : ∀ {fault}, outcome = .error fault → ∃ own, fault = .configuration own) :
    Gate client s (indexText s) session line outcome line.sent where
  opens := by
    refine opens.trans (and_congr_right fun plain => ⟨.inl, ?_⟩)
    rintro (lenient | ⟨named, -⟩)
    · exact lenient
    · exact (quiet.resolve_left plain).resolve_left named
  breaks own := by
    refine ⟨fun broke => ?_, ?_⟩
    · obtain ⟨other, same⟩ := refuses broke
      cases same
    · rintro ⟨plain, careful, named, -⟩
      have lenient := (quiet.resolve_left plain).resolve_left named
      cases careful.symm.trans lenient
  refuses failed := .inl (refuses failed)
  sends := ⟨[], [], by simp, nofun, nofun, fun sent => absurd rfl sent⟩
  silent _ := rfl

/-! ### By what is told about the index -/

section Told

variable {σ : Type} {ch : Cluster.Channel σ ω} {c after : Conversation σ ω} {index : String}
  (careful : s.allowRedReads = false) (stating : stated s.readIndex = some index)
include careful stating

theorem notRed_eq :
    Check.notRed ch s c =
      ((Check.health ch index).onErrand (.checkHealth index) >>= fun health =>
        Attempt.require (health ≠ some .red) (.configuration (.redIndex index))) c := by
  rw [Check.notRed, if_neg (by simp [careful]), stating]

/-- Where the settings leave it open, what is told about the index decides. -/
theorem notRed_told {outcome : Except Fault (Option Health)}
    (asked : Check.health ch index c = (outcome, after)) :
    Check.notRed ch s c =
      (match outcome with
        | .ok health =>
          if health = some .red then .error (.configuration (.redIndex index)) else .ok ()
        | .error fault => .error (fault.onErrand (.checkHealth index)), after) := by
  have told : (Check.health ch index).onErrand (.checkHealth index) c =
      (outcome.mapError (·.onErrand (.checkHealth index)), after) := by
    rw [Attempt.onErrand, Attempt.mapFault_apply, asked]
  rw [notRed_eq careful stating, Attempt.bind_apply, told]
  cases outcome with
  | error fault => rfl
  | ok health => by_cases red : health = some .red <;> simp [Except.mapError, Attempt.require, red]

end Told

section Asking

variable (plain : ¬ Patterned (indexText s)) (careful : s.allowRedReads = false)
  (named : indexText s ≠ "")
include plain careful named

/-- A gate that goes by what is learned about the index. -/
theorem gate_inquired {health : Except Fault (Option Health)} {heads gets : List Request}
    (inquired : Inquired client session (indexText s) line.world health heads gets)
    {outcome : Except Fault Unit}
    (passes : outcome = .ok () ↔ ∃ known, health = .ok known ∧ known ≠ some .red)
    (breaks : ∀ own, outcome = .error (.misuse own) ↔ health = .error (.misuse own))
    (refuses : ∀ {fault}, outcome = .error fault →
      (∃ own, fault = .configuration own) ∨ ∃ own, fault = .misuse own) :
    Gate client s (indexText s) session line outcome (line.sent ++ heads ++ gets) where
  opens := by
    rw [passes, inquired.clear]
    simp [plain, careful, named]
  breaks own := by
    rw [breaks own, inquired.broken own]
    simp [plain, careful, named]
  refuses := refuses
  sends := ⟨heads, gets, rfl, inquired.headsTo, inquired.getsTo, inquired.present⟩
  silent quiet := by simp [plain, named, careful] at quiet

theorem notRed_gated (client : Client ω) (session : Session) (line : Line ω)
    (journal : Cluster.Journal) :
    Gate client s (indexText s) session line
      (Check.notRed (Rest.channel client) s ⟨session, line, journal⟩).1
      (Check.notRed (Rest.channel client) s ⟨session, line, journal⟩).2.world.sent := by
  have index : stated s.readIndex = some (indexText s) := by rw [stated_readIndex, if_neg named]
  obtain ⟨heads, gets, sent, inquired⟩ := health_inquired client session (indexText s) line journal
  rcases asked : Check.health (Rest.channel client) (indexText s) ⟨session, line, journal⟩ with
    ⟨fault | health, after⟩
  all_goals
    rw [asked] at sent inquired
    rw [notRed_told careful index asked, sent]
  · rcases inquired.untold rfl with ⟨reason, rfl⟩ | ⟨own, rfl⟩
    · exact gate_inquired plain careful named inquired ⟨nofun, nofun⟩ (fun own => ⟨nofun, nofun⟩)
        fun failed => .inl (refusal failed)
    · refine gate_inquired plain careful named inquired ⟨nofun, nofun⟩ (fun own => ?_)
        fun failed => ?_
      · exact ⟨fun same => by cases same; rfl, fun same => by cases same; rfl⟩
      · cases failed
        exact .inr ⟨own, rfl⟩
  · by_cases red : health = some .red
    · dsimp only
      rw [if_pos red]
      refine gate_inquired plain careful named inquired ⟨nofun, ?_⟩ (fun own => ⟨nofun, nofun⟩)
        fun failed => .inl (refusal failed)
      rintro ⟨_, same, notRed⟩
      cases same
      exact absurd red notRed
    · dsimp only
      rw [if_neg red]
      exact gate_inquired plain careful named inquired
        ⟨fun _ => ⟨health, rfl, red⟩, fun _ => rfl⟩ (fun own => ⟨nofun, nofun⟩) nofun

end Asking

theorem reading_gated (client : Client ω) (s : Settings) (session : Session) (line : Line ω)
    (journal : Cluster.Journal) :
    Gate client s (indexText s) session line
      (Check.reading (Rest.channel client) s ⟨session, line, journal⟩).1
      (Check.reading (Rest.channel client) s ⟨session, line, journal⟩).2.world.sent := by
  have opening := reading_opening (Rest.channel client) s ⟨session, line, journal⟩
  generalize Check.reading (Rest.channel client) s ⟨session, line, journal⟩ = result at opening
  cases opening with
  | patterned patterned =>
    exact gate_silent (.inl patterned) ⟨nofun, fun both => absurd patterned both.1⟩ refusal
  | lenient plain lenient =>
    exact gate_silent (.inr (.inr lenient)) ⟨fun _ => ⟨plain, lenient⟩, fun _ => rfl⟩ nofun
  | nameless plain careful nameless =>
    refine gate_silent (.inr (.inl nameless)) ⟨nofun, fun both => ?_⟩ refusal
    cases careful.symm.trans both.2
  | asking plain careful named => exact notRed_gated plain careful named client session line journal

end Gating

/-- The gate before reading goes by one index: that of the resource for reading, or where this is
missing, of the common one. It opens just if the index is no pattern and either may be read in any
health, or is clear as far as the cluster tells. What the client raises on the way besides its own
errors comes through, and every other outcome is a fault of the configuration. Nothing is sent where
the settings alone decide. -/
theorem read_gate (client : Client ω) (scene : Scene (Line ω)) :
    let s := scene.desk.settings
    ∃ index, (∀ other, Settings.NamesIndex s.resourceRead s.resource other ↔ other = index) ∧
      Gate client s index (Session.start s scene.negotiation.roster.workingSet) scene.desk.world
        (clearReading (Rest.channel client) scene).1
        (clearReading (Rest.channel client) scene).2.desk.world.sent := by
  intro s
  refine ⟨indexText s, fun other => Settings.namesIndex_iff, ?_⟩
  -- What is sent in a session is not changed by closing it.
  exact reading_gated client s _ scene.desk.world
    (scene.desk.journal.record (.opened scene.negotiation.roster.workingSet))

end Clearance.Negotiation
