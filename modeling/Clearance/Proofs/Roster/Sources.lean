import Clearance.Proofs.Cluster.Visit
import Clearance.Proofs.Roster.Target

/-!
# Where the nodes of a roster come from

What the cluster told about its nodes so far decides the working set: the nodes of any role are
added to it, those of one role narrow it as long as a node is left. So each address in it was
declared, or told by the cluster when it was asked for the nodes of any role.

Results:
1. `hearAll`, `Led`: the roster after what was heard, and visits that go by it.
2. `Led.source`: where an address of the working set comes from.
3. `Led.declared`: without discovery there are the declared nodes only.
-/

namespace Clearance.Roster

open Cluster (Exchange Query Visit)

/-! ## Hearing -/

/-- The roster allows the question: nodes of any role are asked for discovery only, those of one
role only if the roster is restricted to it. -/
def Permits (r : Roster) : Query → Prop
  | .nodes role => if role = .any then r.discoveryEnabled = true else r.restriction = some role
  | .name | .presence _ | .health _ | .version => True

/-- The roster after a question with its outcome. -/
def hear (r : Roster) : Exchange → Roster
  | ⟨.nodes role, .ok nodes⟩ =>
    if role = .any then r.extend nodes else (r.narrow role nodes).toOption.getD r
  | _ => r

/-- The roster after some questions. -/
def hearAll (r : Roster) (exchanges : List Exchange) : Roster :=
  exchanges.foldl hear r

/-- The visits are led by what was heard before each of them: they go to the working set, and ask
what the roster allows. -/
inductive Led : Roster → List Visit → Roster → Prop
  | none {r : Roster} : Led r [] r
  | visit {r now : Roster} {exchanges : List Exchange} {rest : List Visit}
      (permitted : ∀ e ∈ exchanges, r.Permits e.query)
      (later : Led (r.hearAll exchanges) rest now) :
      Led r (⟨r.workingSet, exchanges⟩ :: rest) now

theorem Led.append {r between now : Roster} {visits more : List Visit}
    (first : Led r visits between) (second : Led between more now) :
    Led r (visits ++ more) now := by
  induction first with
  | none => exact second
  | visit permitted _ ih => exact .visit permitted (ih second)

/-- Between the visits there is a roster that the earlier ones led to. -/
theorem Led.split {r now : Roster} {visits more : List Visit} (led : Led r (visits ++ more) now) :
    ∃ between, Led r visits between ∧ Led between more now := by
  induction visits generalizing r with
  | nil => exact ⟨r, .none, led⟩
  | cons visit rest ih =>
    cases led with
    | visit permitted later =>
      obtain ⟨between, early, late⟩ := ih later
      exact ⟨between, .visit permitted early, late⟩

/-! ## One question -/

/-- In one of the exchanges the cluster told the address as that of a node. -/
def ToldIn (exchanges : List Exchange) (a : String) : Prop :=
  ∃ nodes, (⟨.nodes .any, .ok nodes⟩ : Exchange) ∈ exchanges ∧ a ∈ nodes

theorem hear_nodes (r : Roster) (role : Role) (nodes : List String) :
    r.hear ⟨.nodes role, .ok nodes⟩ =
      if role = .any then r.extend nodes else (r.narrow role nodes).toOption.getD r := rfl

/-- A question that is not about nodes leaves the roster alone. -/
theorem hearAll_others (r : Roster) {exchanges : List Exchange}
    (others : ∀ e ∈ exchanges, ∀ role, e.query ≠ .nodes role) : r.hearAll exchanges = r := by
  induction exchanges with
  | nil => rfl
  | cons e rest ih =>
    have same : r.hear e = r := by
      unfold hear
      split
      · next role nodes => exact absurd rfl (others _ List.mem_cons_self role)
      · rfl
    rw [hearAll, List.foldl_cons, same]
    exact ih fun later present => others later (List.mem_cons_of_mem _ present)

theorem hear_error (r : Roster) {query : Query} (fault : Fault) :
    r.hear ⟨query, .error fault⟩ = r := by
  cases query <;> rfl

/-- What narrowing leaves was there before, and the options stay. -/
theorem hear_narrow (r : Roster) (role : Role) (nodes : List String) :
    let narrowed := (r.narrow role nodes).toOption.getD r
    (∀ a ∈ narrowed.workingSet, a ∈ r.workingSet) ∧
      narrowed.discoveryEnabled = r.discoveryEnabled ∧ narrowed.restriction = r.restriction := by
  intro narrowed
  cases left : r.narrow role nodes with
  | error shortage =>
    have same : narrowed = r := by simp [narrowed, left, Except.toOption]
    rw [same]
    exact ⟨fun _ present => present, rfl, rfl⟩
  | ok u =>
    have same : narrowed = u := by simp [narrowed, left, Except.toOption]
    rw [same]
    refine ⟨fun a present => (sublist_of_narrow left).subset present, ?_⟩
    rw [(narrow_eq_ok.mp left).2]
    exact ⟨rfl, rfl⟩

theorem hear_source (r : Roster) (e : Exchange) {a : String}
    (present : a ∈ (r.hear e).workingSet) : a ∈ r.workingSet ∨ ToldIn [e] a := by
  unfold hear at present
  split at present
  · next role nodes =>
    split at present
    · next any =>
      subst any
      refine (mem_extend.mp present).imp_right fun found => ?_
      exact ⟨nodes, List.mem_singleton_self _, found⟩
    · exact .inl ((hear_narrow r role nodes).1 a present)
  · exact .inl present

theorem hear_options (r : Roster) (e : Exchange) :
    (r.hear e).discoveryEnabled = r.discoveryEnabled ∧
      (r.hear e).restriction = r.restriction := by
  unfold hear
  split
  · next role nodes =>
    split
    · exact ⟨rfl, rfl⟩
    · exact (hear_narrow r role nodes).2
  · exact ⟨rfl, rfl⟩

/-! ## Some questions -/

theorem hearAll_source {r : Roster} {exchanges : List Exchange} {a : String}
    (present : a ∈ (r.hearAll exchanges).workingSet) : a ∈ r.workingSet ∨ ToldIn exchanges a := by
  induction exchanges generalizing r with
  | nil => exact .inl present
  | cons e rest ih =>
    rcases ih present with known | ⟨nodes, told, listed⟩
    · refine (hear_source r e known).imp_right ?_
      rintro ⟨nodes, told, listed⟩
      exact ⟨nodes, List.mem_cons.mpr (.inl (List.mem_singleton.mp told)), listed⟩
    · exact .inr ⟨nodes, List.mem_cons_of_mem _ told, listed⟩

theorem hearAll_options (r : Roster) (exchanges : List Exchange) :
    (r.hearAll exchanges).discoveryEnabled = r.discoveryEnabled ∧
      (r.hearAll exchanges).restriction = r.restriction := by
  induction exchanges generalizing r with
  | nil => exact ⟨rfl, rfl⟩
  | cons e rest ih =>
    obtain ⟨discovery, restriction⟩ := ih (r.hear e)
    exact ⟨discovery.trans (hear_options r e).1, restriction.trans (hear_options r e).2⟩

/-! ## Visits -/

/-- Every address of the working set was there from the start, or was told in a visit since. -/
theorem Led.source {r now : Roster} {visits : List Visit} (led : Led r visits now) {a : String}
    (present : a ∈ now.workingSet) :
    a ∈ r.workingSet ∨ ∃ visit ∈ visits, ToldIn visit.exchanges a := by
  induction led with
  | none => exact .inl present
  | visit _ _ ih =>
    rcases ih present with known | ⟨visit, later, told⟩
    · exact (hearAll_source known).imp_right fun told => ⟨_, List.mem_cons_self, told⟩
    · exact .inr ⟨visit, List.mem_cons_of_mem _ later, told⟩

/-- Without discovery nothing is told that the roster would take up. -/
theorem Led.declared {r now : Roster} {visits : List Visit} (led : Led r visits now)
    (off : r.discoveryEnabled = false) {a : String} (present : a ∈ now.workingSet) :
    a ∈ r.workingSet := by
  induction led with
  | none => exact present
  | visit permitted _ ih =>
    rcases hearAll_source (ih ((hearAll_options _ _).1.trans off) present) with known | told
    · exact known
    · obtain ⟨nodes, told, -⟩ := told
      have on := permitted _ told
      rw [Permits, if_pos rfl, off] at on
      cases on

theorem Led.restriction {r now : Roster} {visits : List Visit} (led : Led r visits now) :
    now.restriction = r.restriction := by
  induction led with
  | none => rfl
  | visit _ _ ih => exact ih.trans (hearAll_options _ _).2

/-- As long as no nodes are asked for, all visits go to the same nodes. -/
theorem Led.unmoved {r now : Roster} {visits : List Visit} (led : Led r visits now)
    (others : ∀ e ∈ visits.flatMap Visit.exchanges, ∀ role, e.query ≠ .nodes role) :
    ∀ visit ∈ visits, visit.nodes = r.workingSet := by
  induction led with
  | none => exact fun _ present => absurd present List.not_mem_nil
  | @visit r now exchanges rest _ _ ih =>
    have still : r.hearAll exchanges = r :=
      hearAll_others r fun e present => others e (List.mem_append_left _ present)
    intro visit present
    rcases List.mem_cons.mp present with rfl | present
    · rfl
    · rw [ih (fun e present => others e (List.mem_append_right _ present)) visit present, still]

end Clearance.Roster
