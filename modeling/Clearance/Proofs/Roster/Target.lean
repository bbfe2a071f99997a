import Clearance.Proofs.FirstOccurrence
import Clearance.Roster.Basic

/-!
# What growth and narrowing do to a roster

Discovery lets the working set grow by the nodes of the cluster, a restriction narrows it to the
nodes that the cluster lists for a role. On a cluster whose answers stay the same the two can be
taken in any order and repeated: the set that they lead to, the target, never moves.

Results:
1. `nodup_extend`, `workingSet_extend`: growth appends exactly the addresses that were missing.
2. `narrow_eq_ok`: narrowing succeeds if some node is left, and keeps the nodes that are listed.
3. `target_extend`, `target_narrow`: neither growth nor narrowing moves the target.
4. `target_of_complete`: after growth the target is what narrowing leaves.
-/

namespace Clearance.Roster

/-- The working set that growth by `all` and narrowing to `listed` lead to, as far as the options of
the roster ask for them. -/
def target (r : Roster) (all listed : List String) : List String :=
  let grown := if r.discoveryEnabled then (r.workingSet ++ all).eraseDups else r.workingSet
  if r.restriction.isSome then grown.filter (· ∈ listed) else grown

/-- There is nothing left to discover: growth by `all` would change nothing. -/
def Complete (r : Roster) (all : List String) : Prop :=
  r.discoveryEnabled = true → (r.workingSet ++ all).eraseDups = r.workingSet

/-! ## Growth -/

theorem nodup_extend (r : Roster) (found : List String) : (r.extend found).workingSet.Nodup :=
  nodup_eraseDups _

theorem workingSet_extend {r : Roster} (distinct : r.workingSet.Nodup) (found : List String) :
    (r.extend found).workingSet =
      r.workingSet ++ (found.filter (· ∉ r.workingSet)).eraseDups := by
  have missing : found.removeAll r.workingSet = found.filter (· ∉ r.workingSet) := by
    refine List.filter_congr fun a _ => ?_
    rw [Bool.eq_iff_iff]
    simp
  rw [extend, List.eraseDups_append, eraseDups_of_nodup distinct, missing]

theorem mem_extend {r : Roster} {found : List String} {a : String} :
    a ∈ (r.extend found).workingSet ↔ a ∈ r.workingSet ∨ a ∈ found := by
  rw [extend, List.mem_eraseDups, List.mem_append]

theorem complete_extend (r : Roster) (all : List String) : (r.extend all).Complete all := by
  intro _
  have known : ∀ a ∈ all, a ∈ r.workingSet ++ all := fun a present =>
    List.mem_append_right _ present
  rw [extend, eraseDups_append_left, eraseDups_append_known known]

/-! ## Narrowing -/

theorem narrow_eq_ok {r u : Roster} {role : Role} {listed : List String} :
    r.narrow role listed = .ok u ↔
      r.retained listed ≠ [] ∧ u = { r with workingSet := r.retained listed } := by
  unfold narrow
  split
  · next empty => simp [empty]
  · next left => simp [left, eq_comm]

theorem narrow_eq_error {r : Roster} {role : Role} {listed : List String} {shortage : Shortage} :
    r.narrow role listed = .error shortage ↔
      r.retained listed = [] ∧ shortage = ⟨role, listed, r.workingSet, r.discoveryEnabled⟩ := by
  unfold narrow
  split
  · next empty => simp [empty, eq_comm]
  · next left => simp [left]

theorem nodup_retained {r : Roster} (distinct : r.workingSet.Nodup) (listed : List String) :
    (r.retained listed).Nodup :=
  distinct.sublist List.filter_sublist

/-! ## The target -/

theorem target_extend {r : Roster} (on : r.discoveryEnabled = true) (all listed : List String) :
    (r.extend all).target all listed = r.target all listed := by
  have grown := complete_extend r all on
  have on' : (r.extend all).discoveryEnabled = true := on
  unfold target
  rw [if_pos on', if_pos on, grown]
  rfl

/-- Narrowing drops nodes that are not listed only, and growth brings back none that is: a listed
node in `all` is appended after narrowing just where it was missing before. -/
theorem target_narrow {r u : Roster} {role : Role} {all listed : List String}
    (restricted : r.restriction = some role) (narrowed : r.narrow role listed = .ok u) :
    u.target all listed = r.target all listed := by
  obtain ⟨-, rfl⟩ := narrow_eq_ok.mp narrowed
  have twice : (r.retained listed).filter (· ∈ listed) = r.workingSet.filter (· ∈ listed) := by
    rw [retained, List.filter_filter]
    simp only [Bool.and_self]
  unfold target
  simp only [restricted, Option.isSome_some, if_true]
  cases r.discoveryEnabled with
  | false => exact twice
  | true =>
    -- Both working sets are filtered before their later occurrences are left out, and the filter
    -- does not tell them apart.
    simp only [if_true]
    rw [filter_eraseDups, filter_eraseDups, List.filter_append, List.filter_append, twice]

theorem target_of_complete {r : Roster} {all : List String} (complete : r.Complete all)
    (listed : List String) :
    r.target all listed = if r.restriction.isSome then r.retained listed else r.workingSet := by
  have grown :
      (if r.discoveryEnabled then (r.workingSet ++ all).eraseDups else r.workingSet) =
        r.workingSet := by
    split
    · next on => exact complete on
    · rfl
  unfold target
  rw [grown]
  rfl

end Clearance.Roster
