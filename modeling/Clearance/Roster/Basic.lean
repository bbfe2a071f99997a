import Clearance.Settings.Basic

/-!
# Roster

The nodes that a job may talk to. The working set starts with the declared nodes; discovery appends
what it finds, and a restriction keeps the nodes that the cluster lists for a role. Both replace the
working set as a whole and keep the order of what was there.

* Discovery keeps the working set at the front (`prefix_extend`).
* Narrowing leaves out nodes and moves none (`sublist_of_narrow`).
-/

namespace Clearance

/-- The nodes that may be talked to, and the options that decide which. -/
structure Roster where
  workingSet : List String := []
  discoveryEnabled : Bool := false
  restriction : Option Role := none
  deriving DecidableEq, Repr

namespace Roster

/-- A roster whose nodes are the given ones, every one once. -/
def ofNodes (nodes : List String) (discoveryEnabled : Bool) (restriction : Option Role) :
    Roster :=
  ⟨nodes.eraseDups, discoveryEnabled, restriction⟩

/-- The roster that settings ask for. -/
def ofSettings (s : Settings) : Except Fault Roster :=
  s.declaredNodes.map fun nodes => ofNodes nodes s.discoveryEnabled s.restriction

/-- The roster with nodes added at the end, as far as they are new. -/
def extend (r : Roster) (found : List String) : Roster :=
  { r with workingSet := (r.workingSet ++ found).eraseDups }

/-- The nodes of the working set that the cluster lists. -/
def retained (r : Roster) (listed : List String) : List String :=
  r.workingSet.filter (· ∈ listed)

/-- The roster narrowed to the nodes that the cluster lists for a role, unless none is left. -/
def narrow (r : Roster) (role : Role) (listed : List String) : Except Shortage Roster :=
  if r.retained listed = [] then .error ⟨role, listed, r.workingSet, r.discoveryEnabled⟩
  else .ok { r with workingSet := r.retained listed }

theorem prefix_extend {r : Roster} {found : List String}
    (h : r.workingSet.eraseDups = r.workingSet) :
    r.workingSet <+: (r.extend found).workingSet := by
  rw [extend, List.eraseDups_append, h]
  exact List.prefix_append _ _

theorem sublist_of_narrow {r u : Roster} {role : Role} {listed : List String}
    (h : r.narrow role listed = .ok u) : u.workingSet.Sublist r.workingSet := by
  rw [narrow] at h
  split at h
  · cases h
  · cases h
    exact List.filter_sublist

end Roster

end Clearance
