import Clearance.Components
import Clearance.Proofs.Settings.Resource

/-!
# Proposals for a job

Integrations may propose components in any number and any order. A slot is vacant if it has no
component and needs one: a converter is needed for documents that are JSON already only. The first
proposal for a vacant slot fills it, and it is not vacant any more. Every other proposal is turned
down, and nothing else changes. So what a job comes to depends on the first proposal for each slot,
and not on the order in which the proposals for different slots are made.

Results:
1. `get_make`, `make_keeps`: what one proposal does to each slot, and that it does no more.
2. `vacant_proposeAll`, `proposeAll_eq`: which slots are vacant after a run of proposals, and the
   settings that it comes to.
3. `first_proposal_counts`: of the proposals for a slot the first one counts.
-/

namespace Clearance.Components

/-- A component that is proposed for a slot. -/
structure Proposal where
  slot : Slot
  component : Component
  deriving DecidableEq, Repr

/-- The settings after a proposal was made. -/
def Proposal.make (s : Settings) (p : Proposal) : Settings :=
  (propose p.slot p.component s).settings

/-- The settings after proposals were made one after another. -/
def proposeAll (ps : List Proposal) (s : Settings) : Settings :=
  ps.foldl Proposal.make s

/-- The path that fills the slot if the proposal is taken. Documents that are JSON already are
written as they are. -/
def Proposal.path (s : Settings) (p : Proposal) : String :=
  if p.slot = .writer ∧ s.jsonInput = true then plainWriter.dotted else p.component.dotted

/-- The slot has no component, and a job with these settings needs one. -/
structure Vacant (s : Settings) (slot : Slot) : Prop where
  unset : stated (slot.get s) = none
  needed : slot = .converter → s.jsonInput = true

/-- The settings with these components in the slots. -/
def withComponents (s : Settings) (components : Slot → Option String) : Settings :=
  { s with
    writerClass := components .writer
    readerClass := components .reader
    bytesConverterClass := components .converter
    fieldExtractorClass := components .extractor }

/-- The settings differ in this slot at most. -/
structure KeepsBut (slot : Slot) (s t : Settings) : Prop where
  slots : ∀ other, other ≠ slot → other.get t = other.get s
  rest : t = withComponents s fun any => any.get t

/-! ## Slots -/

section Slots

variable {s : Settings} {slot other : Slot} {path : String}

theorem get_withComponents (components : Slot → Option String) :
    slot.get (withComponents s components) = components slot := by
  cases slot <;> rfl

theorem withComponents_twice (before components : Slot → Option String) :
    withComponents (withComponents s before) components = withComponents s components :=
  rfl

theorem get_put : slot.get (slot.put s path) = some path := by
  cases slot <;> rfl

theorem get_put_of_ne (differ : other ≠ slot) : other.get (slot.put s path) = other.get s := by
  cases slot <;> cases other <;> first | rfl | exact absurd rfl differ

theorem put_keeps : KeepsBut slot s (slot.put s path) :=
  ⟨fun _ differ => get_put_of_ne differ, by cases slot <;> rfl⟩

theorem KeepsBut.jsonInput {t : Settings} (keeps : KeepsBut slot s t) :
    t.jsonInput = s.jsonInput := by
  rw [keeps.rest]
  rfl

theorem isOpen_iff : slot.isOpen s = true ↔ Vacant s slot := by
  have needs : (slot != .converter || s.jsonInput) = true ↔
      (slot = .converter → s.jsonInput = true) := by
    rw [Bool.or_eq_true, bne_iff_ne, Decidable.imp_iff_not_or]
  rw [Slot.isOpen, Bool.and_eq_true, Option.isNone_iff_eq_none, needs]
  exact ⟨fun ⟨unset, needed⟩ => ⟨unset, needed⟩, fun ⟨unset, needed⟩ => ⟨unset, needed⟩⟩

instance (s : Settings) (slot : Slot) : Decidable (Vacant s slot) :=
  decidable_of_iff _ isOpen_iff

theorem not_vacant_of_chosen {own : String} (chosen : slot.get s = some own) (text : own ≠ "") :
    ¬ Vacant s slot := fun vacant =>
  stated_eq_none.mp vacant.unset ⟨own, chosen, text⟩

/-- Whether a slot is vacant depends on it and on what the documents are. -/
theorem vacant_congr {t : Settings} (same : slot.get t = slot.get s)
    (json : t.jsonInput = s.jsonInput) : Vacant t slot ↔ Vacant s slot := by
  rw [← isOpen_iff, ← isOpen_iff, Slot.isOpen, Slot.isOpen, same, json]

end Slots

/-! ## One proposal -/

section One

variable {s : Settings} {p : Proposal} {slot : Slot}

theorem dotted_choice : (p.slot.choice s p.component).dotted = p.path s := by
  rw [Slot.choice, Proposal.path]
  split <;> rfl

theorem plainWriter_named : plainWriter.dotted ≠ "" := by
  decide +kernel

theorem path_ne_empty (named : p.component.dotted ≠ "") : p.path s ≠ "" := by
  rw [Proposal.path]
  split
  · exact plainWriter_named
  · exact named

theorem taken_iff : (propose p.slot p.component s).taken = true ↔ Vacant s p.slot := by
  rw [← isOpen_iff, propose]
  split <;> simp [*]

theorem make_of_vacant (vacant : Vacant s p.slot) : p.make s = p.slot.put s (p.path s) := by
  rw [Proposal.make, propose, if_pos (isOpen_iff.mpr vacant), dotted_choice]

theorem make_of_not_vacant (filled : ¬ Vacant s p.slot) : p.make s = s := by
  rw [Proposal.make, propose, if_neg (mt isOpen_iff.mp filled)]

theorem make_keeps : KeepsBut p.slot s (p.make s) := by
  by_cases vacant : Vacant s p.slot
  · rw [make_of_vacant vacant]
    exact put_keeps
  · rw [make_of_not_vacant vacant]
    exact ⟨fun _ _ => rfl, rfl⟩

/-- A proposal fills its slot if that is vacant, and changes no slot otherwise. -/
theorem get_make :
    slot.get (p.make s) =
      if p.slot = slot ∧ Vacant s slot then some (p.path s) else slot.get s := by
  by_cases own : p.slot = slot
  · subst own
    by_cases vacant : Vacant s p.slot
    · rw [if_pos ⟨rfl, vacant⟩, make_of_vacant vacant, get_put]
    · rw [if_neg fun both => vacant both.2, make_of_not_vacant vacant]
  · rw [if_neg fun both => own both.1]
    exact make_keeps.slots slot (Ne.symm own)

/-- A slot that something was proposed for is not vacant afterwards. -/
theorem vacant_make (named : p.component.dotted ≠ "") :
    Vacant (p.make s) slot ↔ Vacant s slot ∧ p.slot ≠ slot := by
  by_cases own : p.slot = slot
  · subst own
    -- It is filled either by this proposal or before it.
    have filled : ¬ Vacant (p.make s) p.slot := by
      by_cases vacant : Vacant s p.slot
      · refine not_vacant_of_chosen ?_ (path_ne_empty (s := s) named)
        rw [get_make, if_pos ⟨rfl, vacant⟩]
      · rwa [make_of_not_vacant vacant]
    exact ⟨fun vacant => absurd vacant filled, fun ⟨_, differ⟩ => absurd rfl differ⟩
  · rw [vacant_congr (make_keeps.slots slot (Ne.symm own)) make_keeps.jsonInput]
    exact ⟨fun vacant => ⟨vacant, own⟩, fun both => both.1⟩

end One

/-! ## A run of proposals -/

/-- What a slot holds after a run of proposals: the path of the first one for it, if it is vacant
and there is one. -/
def firstChoice (ps : List Proposal) (s : Settings) (slot : Slot) : Option String :=
  if Vacant s slot then ((ps.find? (·.slot = slot)).map (·.path s)).or (slot.get s) else slot.get s

section Runs

variable {ps : List Proposal} {s : Settings} {slot : Slot}

theorem proposeAll_append (ps more : List Proposal) (s : Settings) :
    proposeAll (ps ++ more) s = proposeAll more (proposeAll ps s) :=
  List.foldl_append

theorem vacant_proposeAll (named : ∀ p ∈ ps, p.component.dotted ≠ "") :
    Vacant (proposeAll ps s) slot ↔ Vacant s slot ∧ ∀ p ∈ ps, p.slot ≠ slot := by
  induction ps generalizing s with
  | nil => simp [proposeAll]
  | cons p rest ih =>
    obtain ⟨here, later⟩ := List.forall_mem_cons.mp named
    rw [proposeAll, List.foldl_cons, ← proposeAll, ih later, vacant_make here,
      List.forall_mem_cons, and_assoc]

/-- The first proposal leaves the others with the choice that they had, its own slot aside. -/
theorem firstChoice_cons {p : Proposal} (named : p.component.dotted ≠ "") :
    firstChoice ps (p.make s) slot = firstChoice (p :: ps) s slot := by
  unfold firstChoice
  by_cases own : p.slot = slot
  -- The slot is not vacant any more, so that later proposals for it do not count.
  · rw [if_neg fun vacant => ((vacant_make named).mp vacant).2 own, get_make,
      List.find?_cons_of_pos (by simpa using own)]
    by_cases vacant : Vacant s slot
    · rw [if_pos ⟨own, vacant⟩, if_pos vacant]
      rfl
    · rw [if_neg fun both => vacant both.2, if_neg vacant]
  · have same : slot.get (p.make s) = slot.get s := make_keeps.slots slot (Ne.symm own)
    have json : (p.make s).jsonInput = s.jsonInput := make_keeps.jsonInput
    have paths : (fun q : Proposal => q.path (p.make s)) = fun q => q.path s := by
      funext q
      rw [Proposal.path, json, ← Proposal.path]
    rw [List.find?_cons_of_neg (by simpa using own), same, paths,
      ite_congr (propext (vacant_congr same json)) (fun _ => rfl) fun _ => rfl]

theorem proposeAll_eq (named : ∀ p ∈ ps, p.component.dotted ≠ "") :
    proposeAll ps s = withComponents s (firstChoice ps s) := by
  induction ps generalizing s with
  | nil =>
    have same : firstChoice [] s = fun slot => slot.get s := by
      funext slot
      unfold firstChoice
      split <;> rfl
    rw [same]
    rfl
  | cons p rest ih =>
    obtain ⟨here, later⟩ := List.forall_mem_cons.mp named
    have choices : firstChoice rest (p.make s) = firstChoice (p :: rest) s :=
      funext fun _ => firstChoice_cons here
    calc
      proposeAll (p :: rest) s = proposeAll rest (p.make s) := rfl
      _ = withComponents (p.make s) (firstChoice (p :: rest) s) := by rw [ih later, choices]
      _ = withComponents s (firstChoice (p :: rest) s) := by
        rw [make_keeps.rest, withComponents_twice]

theorem get_proposeAll (named : ∀ p ∈ ps, p.component.dotted ≠ "") :
    slot.get (proposeAll ps s) = firstChoice ps s slot := by
  rw [proposeAll_eq named, get_withComponents]

end Runs

/-! ## The first choice -/

/-- How a run of proposals goes. Its beginnings are the runs up to some proposal. -/
structure FirstCounts (ps : List Proposal) (s : Settings) : Prop where
  /-- A proposal is taken just if its slot was vacant at first and it is the first one for it. -/
  answered : ∀ before p, before ++ [p] <+: ps →
    ((propose p.slot p.component (proposeAll before s)).taken = true ↔
      Vacant s p.slot ∧ ∀ q ∈ before, q.slot ≠ p.slot)
  /-- From then on the slot holds the path of this proposal. -/
  filled : ∀ before p more, before ++ p :: more <+: ps → Vacant s p.slot →
    (∀ q ∈ before, q.slot ≠ p.slot) →
      p.slot.get (proposeAll (before ++ p :: more) s) = some (p.path s)
  /-- A slot that is not vacant at first stays as it is all the time. -/
  kept : ∀ slot, ¬ Vacant s slot → ∀ before, before <+: ps →
    slot.get (proposeAll before s) = slot.get s
  /-- So does a slot that nothing was proposed for. -/
  untouched : ∀ slot before, before <+: ps → (∀ q ∈ before, q.slot ≠ slot) →
    slot.get (proposeAll before s) = slot.get s
  /-- Nothing but the slot of a proposal changes with it. -/
  framed : ∀ before p, before ++ [p] <+: ps →
    KeepsBut p.slot (proposeAll before s) (proposeAll (before ++ [p]) s)
  /-- Proposals that are the same for every slot, in the same order, come to the same, however
  those for different slots alternate. -/
  interleaved : ∀ other : List Proposal,
    (∀ slot, other.filter (·.slot = slot) = ps.filter (·.slot = slot)) →
      proposeAll other s = proposeAll ps s

theorem first_proposal_counts (ps : List Proposal) (s : Settings)
    (named : ∀ p ∈ ps, p.component.dotted ≠ "") : FirstCounts ps s where
  answered before p start := by
    have early : ∀ q ∈ before, q.component.dotted ≠ "" := fun q present =>
      named q (start.subset (List.mem_append_left _ present))
    rw [taken_iff, vacant_proposeAll early]
  filled before p more start vacant first := by
    have none : before.find? (·.slot = p.slot) = none := by simpa using first
    rw [get_proposeAll fun q present => named q (start.subset present), firstChoice, if_pos vacant,
      List.find?_append, none, Option.none_or, List.find?_cons_of_pos (by simp)]
    rfl
  kept slot filled before start := by
    rw [get_proposeAll fun q present => named q (start.subset present), firstChoice, if_neg filled]
  untouched slot before start without := by
    have none : before.find? (·.slot = slot) = none := by simpa using without
    rw [get_proposeAll fun q present => named q (start.subset present), firstChoice, none]
    exact ite_self _
  framed before p _ := by
    rw [proposeAll_append]
    exact make_keeps
  interleaved other alike := by
    have names : ∀ q ∈ other, q.component.dotted ≠ "" := by
      intro q present
      have listed : q ∈ other.filter (·.slot = q.slot) := List.mem_filter.mpr ⟨present, by simp⟩
      rw [alike] at listed
      exact named q (List.mem_filter.mp listed).1
    have choices : firstChoice other s = firstChoice ps s := by
      funext slot
      have first : other.find? (·.slot = slot) = ps.find? (·.slot = slot) := by
        rw [← List.head?_filter, ← List.head?_filter, alike]
      rw [firstChoice, firstChoice, first]
    rw [proposeAll_eq names, proposeAll_eq named, choices]

/-- Proposals for a job that writes JSON documents and brings its own extractor. Its reader is an
empty text, which counts as missing. -/
def proposals : List Proposal :=
  [⟨.extractor, .path "maps.Fields"⟩, ⟨.writer, .type "maps" "Writer"⟩,
    ⟨.converter, .type "maps" "Bytes"⟩, ⟨.reader, .path "maps.Reader"⟩,
    ⟨.writer, .path "lists.Writer"⟩, ⟨.reader, .type "lists" "Reader"⟩,
    ⟨.converter, .path "lists.Bytes"⟩]

def documents : Settings :=
  { jsonInput := true, readerClass := some "", fieldExtractorClass := some "own.Fields" }

/-- The extractor stays, the other slots go to the first proposals for them, the writer as the one
that leaves values as they are, and it does not matter that all readers come first. -/
theorem first_proposals_for_documents :
    (∀ p ∈ proposals, p.component.dotted ≠ "") ∧
      (proposeAll proposals documents).fieldExtractorClass = some "own.Fields" ∧
      (proposeAll proposals documents).writerClass =
        some "espreflight.serializers.NoOpValueWriter" ∧
      (proposeAll proposals documents).readerClass = some "maps.Reader" ∧
      (proposeAll proposals documents).bytesConverterClass = some "maps.Bytes" ∧
      proposeAll (proposals.filter (·.slot = .reader) ++ proposals.filter (·.slot ≠ .reader))
        documents = proposeAll proposals documents := by
  have named : ∀ p ∈ proposals, p.component.dotted ≠ "" := by decide +kernel
  have counts := first_proposal_counts proposals documents named
  refine ⟨named, ?_, ?_, ?_, ?_, counts.interleaved _ fun slot => ?_⟩
  · exact counts.kept .extractor (by decide +kernel) proposals (List.prefix_refl _)
  · exact counts.filled (proposals.take 1) ⟨.writer, .type "maps" "Writer"⟩ (proposals.drop 2)
      (List.prefix_refl _) (by decide +kernel) (by decide)
  · exact counts.filled (proposals.take 3) ⟨.reader, .path "maps.Reader"⟩ (proposals.drop 4)
      (List.prefix_refl _) (by decide +kernel) (by decide)
  · exact counts.filled (proposals.take 2) ⟨.converter, .type "maps" "Bytes"⟩ (proposals.drop 3)
      (List.prefix_refl _) (by decide +kernel) (by decide)
  · cases slot <;> decide

end Clearance.Components
