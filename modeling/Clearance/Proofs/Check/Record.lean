import Clearance.Proofs.Cluster.Visit
import Clearance.Proofs.Version
import Clearance.Settings.Basic

/-!
# The record of the version

The version is asked for as long as the settings record none, and the first one that is told is
recorded. So it is told once at most, and from then on neither asked for nor recorded again. What
the record is read as is the version that was told, if that could be read from a text.

Results:
1. `Recording`: questions with their outcomes, and what is made of the record.
2. `Recording.of_stated`: a record is final.
3. `Recording.told_once`: the version is told once at most.
4. `knownVersion_render`: the record of a version is read as this version.
-/

namespace Clearance.Check

open Cluster (Exchange)

/-- The version that a record is read as, if there is a record that can be read. -/
def knownVersion (record : Option String) : Option Version :=
  (stated record).bind fun text => (Version.read text).toOption

/-- The versions that were told. -/
def toldVersions (exchanges : List Exchange) : List Version :=
  exchanges.filterMap fun
    | ⟨.version, .ok v⟩ => some v
    | _ => none

/-- What the questions make of the record: the version is asked for only where there is none, and
recorded when it is told. -/
inductive Recording : Option String → List Exchange → Option String → Prop
  | none {record : Option String} : Recording record [] record
  | other {record now : Option String} {e : Exchange} {rest : List Exchange}
      (other : e.query ≠ .version) (later : Recording record rest now) :
      Recording record (e :: rest) now
  | untold {record now : Option String} {fault : Fault} {rest : List Exchange}
      (unknown : stated record = Option.none) (later : Recording record rest now) :
      Recording record (⟨.version, .error fault⟩ :: rest) now
  | told {record now : Option String} {v : Version} {rest : List Exchange}
      (unknown : stated record = Option.none) (later : Recording (some v.render) rest now) :
      Recording record (⟨.version, .ok v⟩ :: rest) now

theorem stated_render (v : Version) : stated (some v.render) = some v.render := by
  rw [stated, Option.filter_some, if_pos]
  simpa using v.render_ne_empty

theorem knownVersion_render {v : Version} (legible : v.Legible) :
    knownVersion (some v.render) = some v := by
  rw [knownVersion, stated_render, Option.bind_some, Version.read_render legible]
  rfl

theorem knownVersion_eq_some {record : Option String} {v : Version} :
    knownVersion record = some v ↔
      ∃ text, stated record = some text ∧ Version.read text = .ok v := by
  rw [knownVersion, Option.bind_eq_some_iff]
  refine exists_congr fun text => and_congr_right fun _ => ?_
  cases Version.read text with
  | ok w => exact ⟨fun same => by cases same; rfl, fun same => by cases same; rfl⟩
  | error flaw => exact ⟨nofun, nofun⟩

namespace Recording

variable {record between now : Option String} {exchanges more : List Exchange}

theorem nodes {role : Role} {outcome : Except Fault (List String)} :
    Recording record [⟨.nodes role, outcome⟩] record :=
  .other nofun .none

theorem append (first : Recording record exchanges between) (second : Recording between more now) :
    Recording record (exchanges ++ more) now := by
  induction first with
  | none => exact second
  | other other _ ih => exact .other other (ih second)
  | untold unknown _ ih => exact .untold unknown (ih second)
  | told unknown _ ih => exact .told unknown (ih second)

/-- Questions that are not for the version leave the record alone. -/
theorem of_others (others : ∀ e ∈ exchanges, e.query ≠ .version) :
    Recording record exchanges record := by
  induction exchanges with
  | nil => exact .none
  | cons e rest ih =>
    exact .other (others e List.mem_cons_self)
      (ih fun later present => others later (List.mem_cons_of_mem _ present))

/-- Where there is a record, the version is not asked for and the record stays as it is. -/
theorem of_stated (recording : Recording record exchanges now) {text : String}
    (known : stated record = some text) :
    now = record ∧ ∀ e ∈ exchanges, e.query ≠ .version := by
  induction recording with
  | none => exact ⟨rfl, fun _ present => absurd present List.not_mem_nil⟩
  | other other _ ih =>
    obtain ⟨same, others⟩ := ih known
    refine ⟨same, fun e present => ?_⟩
    rcases List.mem_cons.mp present with rfl | present
    · exact other
    · exact others e present
  | untold unknown | told unknown =>
    rw [unknown] at known
    cases known

theorem toldVersions_of_others (others : ∀ e ∈ exchanges, e.query ≠ .version) :
    toldVersions exchanges = [] := by
  refine List.filterMap_eq_nil_iff.mpr fun e present => ?_
  split
  · next v => exact absurd rfl (others _ present)
  · rfl

/-- Of all the questions for the version one at most is answered, and its answer is recorded. -/
theorem told_once (recording : Recording record exchanges now) :
    toldVersions exchanges = [] ∨
      ∃ v, toldVersions exchanges = [v] ∧ stated record = Option.none ∧ now = some v.render := by
  induction recording with
  | none => exact .inl rfl
  | @other record now e rest other _ ih =>
    have skipped : toldVersions (e :: rest) = toldVersions rest := by
      refine List.filterMap_cons_none ?_
      split
      · exact absurd rfl other
      · rfl
    rw [skipped]
    exact ih
  | untold _ _ ih => exact ih
  | @told record now v rest unknown later ih =>
    obtain ⟨same, others⟩ := later.of_stated (stated_render v)
    have only : toldVersions (⟨.version, .ok v⟩ :: rest) = v :: toldVersions rest := rfl
    exact .inr ⟨v, by rw [only, toldVersions_of_others others], unknown, same⟩

end Recording

end Clearance.Check
