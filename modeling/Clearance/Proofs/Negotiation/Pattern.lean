import Clearance.Cluster.Canned
import Clearance.Proofs.Negotiation.ReadGate
import Clearance.Proofs.Text.Trim

/-!
# Patterns in what is read

A pattern is an opening brace with a closing one behind it, and nothing should be read from a
resource that holds one. Only the name of the index is looked at, though, which ends at the first
slash of the resource. A pattern behind this slash is not seen, and neither is one that the slash
divides: reading goes on with the part of the resource before the slash.

Results:
1. `HoldsPattern`, `BracesAhead`, `patterned_iff`: which patterns are seen, by the whole resource.
2. `notRed_asks`: the first question, if the settings leave it to the cluster.
3. `Opening.refused_iff`, `Opening.told_iff`: when reading is refused without a question.
4. `patterns_before_slash`: the same for a negotiation, and what becomes of the other patterns.
5. `patterns_behind_slash_read`: two patterns that are not seen.
-/

namespace Clearance.Negotiation

open Cluster (Canned Channel Conversation Event Journal)
open Text (isBlank)

variable {σ ω : Type} {ch : Channel σ ω} {s : Settings} {c : Conversation σ ω}

/-! ## Patterns in a resource -/

/-- The text of what is read from. It is empty if nothing is given. -/
def resourceText (s : Settings) : List Char :=
  (s.readResource.getD "").toList

/-- There is an opening brace in the text, and a closing one somewhere behind it. -/
def HoldsPattern (text : List Char) : Prop :=
  ∃ front inner back, text = front ++ '\x7b' :: inner ++ '\x7d' :: back

/-- Both braces stand in the text before any slash. -/
def BracesAhead (text : List Char) : Prop :=
  ∃ front back, text = front ++ back ∧ '/' ∉ front ∧ '\x7b' ∈ front ∧ '\x7d' ∈ front

/-- Blanks around the resource have nothing to do with what is seen. -/
theorem patterned_iff : Patterned (indexText s) ↔ BracesAhead (resourceText s) := by
  have passes : ∀ d, isBlank d = true → (d != '/') = true := by
    intro d blank
    refine bne_iff_ne.mpr ?_
    rintro rfl
    cases blank
  have letters : (indexText s).toList = (Text.trim (resourceText s)).takeWhile (· != '/') :=
    String.toList_ofList
  unfold Patterned
  rw [letters, Text.mem_takeWhile_trim passes (by rfl), Text.mem_takeWhile_trim passes (by rfl)]
  constructor
  · rintro ⟨opening, closing⟩
    refine ⟨_, _, List.takeWhile_append_dropWhile.symm, fun slash => ?_, opening, closing⟩
    have other := List.mem_takeWhile_imp slash
    cases other
  · rintro ⟨front, back, whole, slashless, opening, closing⟩
    have before : ∀ d ∈ front, (d != '/') = true := fun d present =>
      bne_iff_ne.mpr fun same => slashless (same ▸ present)
    rw [whole, List.takeWhile_append_of_pos before]
    exact ⟨List.mem_append_left _ opening, List.mem_append_left _ closing⟩

/-! ## The first question -/

theorem health_asks (ch : Channel σ ω) (index : String) (c : Conversation σ ω) :
    ∃ outcome later, (Check.health ch index c).2.journal.events =
      c.journal.events ++ .asked (.presence index) outcome :: later := by
  unfold Check.health
  rcases answer : ch.answer (.presence index) c.session c.world with
    ⟨fault | found, session, world⟩
  · rw [Attempt.bind_of_error (Cluster.ask_of_answer answer)]
    exact ⟨.error fault, [], rfl⟩
  · rw [Attempt.bind_of_ok (Cluster.ask_of_answer answer)]
    cases found with
    | false => exact ⟨.ok false, [], rfl⟩
    | true =>
      rw [if_pos rfl, Attempt.bind_pure_apply]
      exact ⟨.ok true, [.asked (.health index) _], List.append_assoc ..⟩

/-- If the settings leave it to the cluster, it is asked for an index of the name that is read. -/
theorem notRed_asks (ch : Channel σ ω) (c : Conversation σ ω) (careful : s.allowRedReads = false)
    (named : indexText s ≠ "") :
    ∃ outcome later, (Check.notRed ch s c).2.journal.events =
      c.journal.events ++ .asked (.presence (indexText s)) outcome :: later := by
  have stating : stated s.readIndex = some (indexText s) := by rw [stated_readIndex, if_neg named]
  have whole : (Check.notRed ch s c).2 = (Check.health ch (indexText s) c).2 := by
    rw [notRed_eq careful stating, Attempt.bind_apply, Attempt.onErrand, Attempt.mapFault_apply]
    rcases Check.health ch (indexText s) c with ⟨fault | health, after⟩
    · rfl
    · show (Attempt.require _ _ after).2 = after
      unfold Attempt.require
      split <;> rfl
  rw [whole]
  exact health_asks ch (indexText s) c

/-! ## Refusals without a question -/

/-- It ends with a fault of the configuration, and nothing has been asked. -/
def RefusedUnasked (before : Journal) (outcome : Except Fault Unit) (after : Journal) : Prop :=
  (∃ own, outcome = .error (.configuration own)) ∧ after.queries = before.queries

/-- The settings alone stand against reading: both braces are seen, or no index is named though its
health counts. -/
def Stopped (s : Settings) : Prop :=
  BracesAhead (resourceText s) ∨ s.allowRedReads = false ∧ indexText s = ""

theorem queries_asked {before after : Journal} {query : Cluster.Query}
    {outcome : Except Fault query.Answer} {later : List Event}
    (recorded : after.events = before.events ++ .asked query outcome :: later) :
    after.queries ≠ before.queries := by
  intro same
  have more := congrArg List.length same
  simp [Journal.queries, recorded] at more

namespace Opening

variable {result : Except Fault Unit × Conversation σ ω} (opening : Opening ch s c result)
include opening

theorem refused_iff : RefusedUnasked c.journal result.1 result.2.journal ↔ Stopped s := by
  rw [Stopped, ← patterned_iff]
  cases opening with
  | patterned patterned => exact iff_of_true ⟨⟨_, rfl⟩, rfl⟩ (.inl patterned)
  | lenient plain lenient =>
    refine iff_of_false (fun refused => ?_) ?_
    · obtain ⟨own, same⟩ := refused.1
      cases same
    · rintro (patterned | ⟨careful, -⟩)
      · exact plain patterned
      · cases lenient.symm.trans careful
  | nameless plain careful nameless =>
    exact iff_of_true ⟨⟨_, rfl⟩, rfl⟩ (.inr ⟨careful, nameless⟩)
  | asking plain careful named =>
    obtain ⟨outcome, later, recorded⟩ := notRed_asks ch c careful named
    refine iff_of_false (fun refused => queries_asked recorded refused.2) ?_
    rintro (patterned | ⟨-, nameless⟩)
    · exact plain patterned
    · exact named nameless

/-- The words of the refusal tell of a pattern just if both braces are seen. -/
theorem told_iff :
    result = (.error (.configuration (.patternInReadIndex (indexText s))), c) ↔
      BracesAhead (resourceText s) := by
  rw [← patterned_iff]
  cases opening with
  | patterned patterned => exact iff_of_true rfl patterned
  | lenient plain _ => exact iff_of_false nofun plain
  | nameless plain _ _ => exact iff_of_false nofun plain
  | asking plain careful named =>
    obtain ⟨outcome, later, recorded⟩ := notRed_asks ch c careful named
    refine iff_of_false (fun same => ?_) plain
    rw [same] at recorded
    exact queries_asked recorded rfl

end Opening

/-! ## All patterns -/

/-- What becomes of a pattern where something is to be read. -/
structure PatternRule (ch : Channel σ ω) (s : Settings) : Prop where
  told : ∀ c, Check.reading ch s c =
    (.error (.configuration (.patternInReadIndex (indexText s))), c) ↔
      BracesAhead (resourceText s)
  reading : ∀ c, RefusedUnasked c.journal (Check.reading ch s c).1
    (Check.reading ch s c).2.journal ↔ Stopped s
  clearReading : ∀ scene : Scene ω, scene.desk.settings = s →
    (RefusedUnasked scene.desk.journal (clearReading ch scene).1
      (clearReading ch scene).2.desk.journal ↔ Stopped s)
  /-- A pattern that is not seen has a slash before its closing brace. -/
  unseen : ∀ {front inner back : List Char},
    resourceText s = front ++ '\x7b' :: inner ++ '\x7d' :: back →
      ¬ BracesAhead (resourceText s) → '/' ∈ front ++ inner
  /-- With it, reading goes on: red indices may be read, or an index is asked for. -/
  goesOn : ¬ Stopped s → ∀ c,
    (s.allowRedReads = true ∧ Check.reading ch s c = (.ok (), c)) ∨
      ∃ outcome later, (Check.reading ch s c).2.journal.events =
        c.journal.events ++ .asked (.presence (indexText s)) outcome :: later

theorem queries_opened (j : Journal) (nodes : List String) :
    (j.record (.opened nodes)).queries = j.queries := by
  simp [Journal.queries, Journal.record]

theorem queries_closed (j : Journal) : (j.record .closed).queries = j.queries := by
  simp [Journal.queries, Journal.record]

/-- Reading is refused before any question just if both braces stand before the first slash of the
resource, or if no index is named though its health counts. In a negotiation it is the same, beside
the session that is opened and closed. Every other pattern has a slash before its closing brace, and
with it reading goes on. -/
theorem patterns_before_slash (ch : Channel σ ω) (s : Settings) : PatternRule ch s where
  told c := (reading_opening ch s c).told_iff
  reading c := (reading_opening ch s c).refused_iff
  clearReading := by
    rintro scene rfl
    rw [← (reading_opening ch scene.desk.settings (opened ch scene)).refused_iff]
    show (_ ∧ (Journal.record _ .closed).queries = scene.desk.journal.queries) ↔
      (_ ∧ _ = (Journal.record scene.desk.journal (.opened _)).queries)
    rw [queries_closed, queries_opened]
    rfl
  unseen := by
    intro front inner back whole unseen
    by_contra slashless
    obtain ⟨before, between⟩ := not_or.mp (mt List.mem_append.mpr slashless)
    refine unseen ⟨front ++ '\x7b' :: inner ++ ['\x7d'], back, by simp [whole], ?_, by simp,
      by simp⟩
    simp [before, between]
  goesOn := by
    intro free c
    have opening := reading_opening ch s c
    generalize Check.reading ch s c = result at opening
    cases opening with
    | patterned patterned => exact absurd (.inl (patterned_iff.mp patterned)) free
    | lenient _ lenient => exact .inl ⟨lenient, rfl⟩
    | nameless _ careful nameless => exact absurd (.inr ⟨careful, nameless⟩) free
    | asking _ careful named => exact .inr (notRed_asks ch c careful named)

/-- One resource has its pattern behind a slash, the other one a slash in its pattern. Both hold a
pattern, and both are read: the cluster is asked for what stands before the slash. -/
theorem patterns_behind_slash_read :
    let behind : Settings := { nodes := ["a:9200"], resource := some "media/\x7btype\x7d" }
    let divided : Settings := { nodes := ["a:9200"], resource := some "logs-\x7bday|yyyy/MM\x7d" }
    let cluster : Canned := {}
    let n : Negotiation := ⟨⟨["a:9200"], true, some .data⟩, none⟩
    let read (s : Settings) := clearReading Canned.channel ⟨⟨s, cluster, {}⟩, n⟩
    Negotiation.ofSettings behind = .ok n ∧ HoldsPattern (resourceText behind) ∧
      (Check.reading Canned.channel behind ⟨(), cluster, {}⟩).1 = .ok () ∧
      (read behind).1 = .ok () ∧
      (read behind).2.desk.journal.queries = [.presence "media"] ∧
      Negotiation.ofSettings divided = .ok n ∧ HoldsPattern (resourceText divided) ∧
      (Check.reading Canned.channel divided ⟨(), cluster, {}⟩).1 = .ok () ∧
      (read divided).1 = .ok () ∧
      (read divided).2.desk.journal.queries = [.presence "logs-\x7bday|yyyy"] := by
  refine ⟨rfl, ⟨"media/".toList, "type".toList, [], rfl⟩, ?_, ?_, ?_, rfl,
    ⟨"logs-".toList, "day|yyyy/MM".toList, [], rfl⟩, ?_, ?_, ?_⟩
  all_goals decide +kernel

end Clearance.Negotiation
