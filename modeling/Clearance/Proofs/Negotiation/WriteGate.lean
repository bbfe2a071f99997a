import Clearance.Proofs.Negotiation.Steps
import Clearance.Proofs.Rest.Failover
import Clearance.Proofs.Settings.Resource

/-!
# The gate before writing

An update needs the identifier of a document. An index that may not be created has to be there, and
the cluster is asked over REST whether it is. The gate opens only where nothing stands against
writing: neither a status that says nothing about the index nor silence lets anyone pass.

Results:
1. `Found`: what the cluster has to answer.
2. `presence_sought`: the requests for an index, and what becomes of them.
3. `write_gate`: when the gate opens, what it says otherwise, and what it sends.
-/

namespace Clearance.Negotiation

open Cluster (Conversation)
open Http (Client Request Response)
open Rest (FirstAnswer Learns Line OfTransport Session Tried indexPath)
open Settings (NamesIndex indexName)

variable {ω : Type} {client : Client ω}

/-! ## The index -/

/-- The first node that answers tells that there is such an index. -/
def Found (client : Client ω) (session : Session) (index : String) (world : ω) : Prop :=
  ∃ heads response after,
    FirstAnswer client session .head (indexPath index) world heads response after ∧
      response.status = 200

/-- Something else than an error of its own is raised by the client, while it looks for the
index. -/
def BreaksOff (client : Client ω) (session : Session) (index : String) (world : ω)
    (own : MisuseFault) : Prop :=
  ∃ heads after,
    Tried client session .head (indexPath index) session.nodes world heads (.raised own) after

/-- What becomes of the question whether there is an index. -/
structure Sought (client : Client ω) (session : Session) (index : String) (line : Line ω)
    (outcome : Except Fault Bool) (sent : List Request) : Prop where
  found : outcome = .ok true ↔ Found client session index line.world
  broken : ∀ own, outcome = .error (.misuse own) ↔ BreaksOff client session index line.world own
  untold : ∀ {fault}, outcome = .error fault → OfTransport fault ∨ ∃ own, fault = .misuse own
  /-- It is put to the nodes in their order, at most once to each of them. -/
  sends : ∃ heads, sent = line.sent ++ heads ∧
    heads.Sublist (session.nodes.map (session.requestTo .head (indexPath index)))

theorem presence_sought (client : Client ω) (session : Session) (index : String) (line : Line ω)
    (journal : Cluster.Journal) :
    Sought client session index line
      ((Rest.channel client).ask (.presence index) ⟨session, line, journal⟩).1
      ((Rest.channel client).ask (.presence index) ⟨session, line, journal⟩).2.world.sent := by
  obtain ⟨world, before⟩ := line
  obtain ⟨heads, finish, after, tried⟩ :=
    Tried.total client session .head (indexPath index) session.nodes world
  obtain ⟨outcome, came, learned⟩ := Learns.presence index _ _ _ _ tried before
  rw [Rest.ask_of_inquire (.presence index) journal came]
  refine ⟨?_, fun own => ?_, learned.untold, heads, rfl, tried.sent_in_order⟩
  · show outcome = .ok true ↔ Found client session index world
    rw [learned.told true, Found, tried.exists_firstAnswer]
    rfl
  · show outcome = .error (.misuse own) ↔ BreaksOff client session index world own
    rw [learned.raised own]
    constructor
    · rintro rfl
      exact ⟨heads, after, tried⟩
    · rintro ⟨_, _, other⟩
      exact (tried.unique other).2.1

/-! ## The gate -/

/-- What is written can be identified: an update names its document. -/
def Identified (s : Settings) : Prop :=
  s.operation ≠ "update" ∨ ∃ id, s.documentId = some id ∧ id ≠ ""

/-- The gate before writing to an index. -/
structure WriteGate (client : Client ω) (s : Settings) (index : String) (session : Session)
    (line : Line ω) (outcome : Except Fault Unit) (sent : List Request) : Prop where
  opens : outcome = .ok () ↔ Identified s ∧
    (s.autoCreateIndex = true ∨ index ≠ "" ∧ Found client session index line.world)
  /-- What is raised by the client and is none of its own errors comes through as it is. -/
  breaks : ∀ own, outcome = .error (.misuse own) ↔ Identified s ∧
    s.autoCreateIndex = false ∧ index ≠ "" ∧ BreaksOff client session index line.world own
  refuses : ∀ {fault}, outcome = .error fault →
    (∃ own, fault = .configuration own) ∨ ∃ own, fault = .misuse own
  /-- The index is looked for at the nodes in their order, at most once at each of them. -/
  sends : ∃ heads, sent = line.sent ++ heads ∧
    heads.Sublist (session.nodes.map (session.requestTo .head (indexPath index)))
  silent : ¬ Identified s ∨ s.autoCreateIndex = true ∨ index = "" → sent = line.sent

theorem documentId_of_identified {s : Settings} (identified : Identified s) :
    Check.documentId s = .ok () := by
  unfold Check.documentId
  refine if_neg fun missing => ?_
  rcases identified with other | stating
  · exact other missing.1
  · exact stated_eq_none.mp missing.2 stating

theorem documentId_of_unidentified {s : Settings} (unidentified : ¬ Identified s) :
    Check.documentId s = .error (.configuration (.missingId s.operation)) := by
  obtain ⟨update, silent⟩ := not_or.mp unidentified
  unfold Check.documentId
  exact if_pos ⟨Decidable.not_not.mp update, stated_eq_none.mpr silent⟩

section Gating

variable {s : Settings} {index : String} {session : Session} {line : Line ω}

/-- A gate that asks nothing. -/
theorem writeGate_silent {outcome : Except Fault Unit}
    (quiet : ¬ Identified s ∨ s.autoCreateIndex = true ∨ index = "")
    (opens : outcome = .ok () ↔ Identified s ∧ s.autoCreateIndex = true)
    (refuses : ∀ {fault}, outcome = .error fault → ∃ own, fault = .configuration own) :
    WriteGate client s index session line outcome line.sent where
  opens := by
    refine opens.trans (and_congr_right fun identified => ⟨.inl, ?_⟩)
    rintro (creating | ⟨named, -⟩)
    · exact creating
    · exact (quiet.resolve_left (not_not_intro identified)).resolve_right named
  breaks own := by
    refine ⟨fun broken => ?_, ?_⟩
    · obtain ⟨other, same⟩ := refuses broken
      cases same
    · rintro ⟨identified, strict, named, -⟩
      have creating := (quiet.resolve_left (not_not_intro identified)).resolve_right named
      cases strict.symm.trans creating
  refuses failed := .inl (refuses failed)
  sends := ⟨[], (List.append_nil _).symm, List.nil_sublist _⟩
  silent _ := rfl

section Asking

variable (strict : s.autoCreateIndex = false)
include strict

/-- Where the settings leave it open, the question for the index decides. -/
theorem writing_asked {σ : Type} {ch : Cluster.Channel σ ω} {index : String}
    (stating : stated s.writeIndex = some index) {c after : Conversation σ ω}
    {outcome : Except Fault Bool} (asked : ch.ask (.presence index) c = (outcome, after)) :
    Check.writing ch s c =
      (match outcome with
        | .ok true => .ok ()
        | .ok false => .error (.configuration (.missingIndex (s.writeResource.getD "")))
        | .error fault => .error (fault.onErrand (.checkExistence index)), after) := by
  have told : (ch.ask (.presence index)).onErrand (.checkExistence index) c =
      (outcome.mapError (·.onErrand (.checkExistence index)), after) := by
    rw [Attempt.onErrand, Attempt.mapFault_apply, asked]
  rw [Check.writing, if_neg (by simp [strict]), stating]
  dsimp only
  rw [Attempt.bind_apply, told]
  rcases outcome with fault | _ | _ <;> rfl

/-- A gate that goes by what is told about the index. -/
theorem gate_sought (identified : Identified s) (named : index ≠ "") {found : Except Fault Bool}
    {sent : List Request} (sought : Sought client session index line found sent)
    {outcome : Except Fault Unit} (passes : outcome = .ok () ↔ found = .ok true)
    (breaks : ∀ own, outcome = .error (.misuse own) ↔ found = .error (.misuse own))
    (refuses : ∀ {fault}, outcome = .error fault →
      (∃ own, fault = .configuration own) ∨ ∃ own, fault = .misuse own) :
    WriteGate client s index session line outcome sent where
  opens := by
    rw [passes, sought.found]
    simp [identified, strict, named]
  breaks own := by
    rw [breaks own, sought.broken own]
    simp [identified, strict, named]
  refuses := refuses
  sends := sought.sends
  silent quiet := by simp [identified, strict, named] at quiet

theorem writing_sought (client : Client ω) (identified : Identified s)
    (named : indexName s.writeResource ≠ "") (session : Session) (line : Line ω)
    (journal : Cluster.Journal) :
    WriteGate client s (indexName s.writeResource) session line
      (Check.writing (Rest.channel client) s ⟨session, line, journal⟩).1
      (Check.writing (Rest.channel client) s ⟨session, line, journal⟩).2.world.sent := by
  have stating : stated s.writeIndex = some (indexName s.writeResource) :=
    (Settings.stated_indexOf s.writeResource).trans (if_neg named)
  have sought := presence_sought client session (indexName s.writeResource) line journal
  rcases asked : (Rest.channel client).ask (.presence (indexName s.writeResource))
    ⟨session, line, journal⟩ with ⟨outcome, after⟩
  rw [asked] at sought
  rw [writing_asked strict stating asked]
  rcases outcome with fault | _ | _
  · rcases sought.untold rfl with ⟨reason, rfl⟩ | ⟨own, rfl⟩
    · refine gate_sought strict identified named sought ⟨nofun, nofun⟩ (fun own => ⟨nofun, nofun⟩)
        fun failed => ?_
      cases failed
      exact .inl ⟨_, rfl⟩
    · refine gate_sought strict identified named sought ⟨nofun, nofun⟩ (fun own => ?_)
        fun failed => ?_
      · exact ⟨fun same => by cases same; rfl, fun same => by cases same; rfl⟩
      · cases failed
        exact .inr ⟨own, rfl⟩
  · refine gate_sought strict identified named sought ⟨nofun, nofun⟩ (fun own => ⟨nofun, nofun⟩)
      fun failed => ?_
    cases failed
    exact .inl ⟨_, rfl⟩
  · exact gate_sought strict identified named sought ⟨fun _ => rfl, fun _ => rfl⟩
      (fun own => ⟨nofun, nofun⟩) nofun

end Asking

theorem writing_gated (client : Client ω) (identified : Identified s) (session : Session)
    (line : Line ω) (journal : Cluster.Journal) :
    WriteGate client s (indexName s.writeResource) session line
      (Check.writing (Rest.channel client) s ⟨session, line, journal⟩).1
      (Check.writing (Rest.channel client) s ⟨session, line, journal⟩).2.world.sent := by
  cases strict : s.autoCreateIndex with
  | true =>
    rw [Check.writing, if_pos strict]
    exact writeGate_silent (.inr (.inl strict))
      ⟨fun _ => ⟨identified, strict⟩, fun _ => rfl⟩ nofun
  | false =>
    by_cases named : indexName s.writeResource = ""
    · have missing : stated s.writeIndex = none :=
        (Settings.stated_indexOf s.writeResource).trans (if_pos named)
      rw [Check.writing, if_neg (by simp [strict]), missing]
      refine writeGate_silent (.inr (.inr named)) ⟨nofun, fun both => ?_⟩ fun failed => ?_
      · cases strict.symm.trans both.2
      · cases failed
        exact ⟨_, rfl⟩
    · exact writing_sought strict client identified named session line journal

end Gating

/-- The gate before writing goes by one index: that of the resource for writing, or where this is
missing, of the common one. It opens just for what can be identified and either may create its
index, or goes to an index that is there as far as the cluster tells. What the client raises on the
way besides its own errors comes through, and every other outcome is a fault of the configuration.
Where the identifier of a document is missing, nothing happens at all: no session is opened. Where
the settings alone decide, nothing is sent, and otherwise at most one request to a node. -/
theorem write_gate (client : Client ω) (scene : Scene (Line ω)) :
    let s := scene.desk.settings
    (∃ index, (∀ other, NamesIndex s.resourceWrite s.resource other ↔ other = index) ∧
      WriteGate client s index (Session.start s scene.negotiation.roster.workingSet)
        scene.desk.world (clearWriting (Rest.channel client) scene).1
        (clearWriting (Rest.channel client) scene).2.desk.world.sent) ∧
    (¬ Identified s → clearWriting (Rest.channel client) scene =
      (.error (.configuration (.missingId s.operation)), scene)) := by
  intro s
  rw [clearWriting_eq]
  by_cases identified : Identified s
  · rw [documentId_of_identified identified]
    refine ⟨⟨indexName s.writeResource, fun other => Settings.namesIndex_iff, ?_⟩,
      fun unidentified => absurd identified unidentified⟩
    exact writing_gated client identified _ scene.desk.world
      (scene.desk.journal.record (.opened scene.negotiation.roster.workingSet))
  · rw [documentId_of_unidentified identified]
    refine ⟨⟨indexName s.writeResource, fun other => Settings.namesIndex_iff, ?_⟩, fun _ => rfl⟩
    refine writeGate_silent (.inl identified) ⟨nofun, fun both => absurd both.1 identified⟩
      fun failed => ?_
    cases failed
    exact ⟨_, rfl⟩

end Clearance.Negotiation
