import Clearance.Proofs.Outcome
import Clearance.Rest.Node

/-!
# Descriptions of the wrong shape

A description of a node is any JSON value. Which values cannot be read is told here part by part:
the description itself, what it says about HTTP, and, for a node that takes requests only, its roles
and attributes.

Results:
1. `Flawed`, `ofDocument_eq_error`: the descriptions that cannot be read, and how each one fails.
2. `FirstFlawed`, `ofDocuments_eq_error`: of many descriptions the first such one counts.
-/

namespace Clearance.Rest

open Clearance.Json (Value Members)
open Clearance.Text (Glyph)

/-! ## Flaws -/

/-- The value is no object. -/
def Memberless (v : Value) : Prop :=
  ∀ members, v ≠ .object members

/-- Something is there where members are looked up, but it has none. -/
def Unsearchable (given : Option Value) : Prop :=
  ∃ v, given = some v ∧ v.isPresent = true ∧ Memberless v

/-- The value is no array, no text and no object. -/
def Itemless (v : Value) : Prop :=
  Memberless v ∧ (∀ items, v ≠ .array items) ∧ ∀ s, v ≠ .string s

/-- The description is of a node that takes requests: it gives an address. -/
def Published (description : Members) : Prop :=
  ∃ http address, Members.get? (Glyph.ofString "http") description = some (.object http) ∧
    Members.get? (Glyph.ofString "publish_address") http = some address ∧ address.isPresent = true

/-- The roles of the description, unless it says nothing about them. -/
def statedRoles (description : Members) : Option Value :=
  match Members.get? (Glyph.ofString "roles") description with
  | none | some .null => none
  | some roles => some roles

/-- A description that cannot be read, and the fault that comes of it. -/
inductive Flawed : Value → ShapeFault → Prop
  | entry {document : Value} (plain : Memberless document) : Flawed document .noMembers
  | http {description : Members}
      (wrong : Unsearchable (Members.get? (Glyph.ofString "http") description)) :
      Flawed (.object description) .noMembers
  | attributes {description : Members} (published : Published description)
      (roleless : statedRoles description = none)
      (wrong : Unsearchable (Members.get? (Glyph.ofString "attributes") description)) :
      Flawed (.object description) .noMembers
  | roles {description : Members} {roles : Value} (published : Published description)
      (given : statedRoles description = some roles) (wrong : Itemless roles) :
      Flawed (.object description) .noItems

/-- The fault that comes of the first description that cannot be read. -/
def FirstFlawed (descriptions : Members) (fault : ShapeFault) : Prop :=
  ∃ before key document after, descriptions = before ++ (key, document) :: after ∧
    (∀ entry ∈ before, ∀ other, ¬ Flawed entry.2 other) ∧ Flawed document fault

/-! ## Parts of a description -/

theorem membersOf_eq_error {v : Value} {fault : ShapeFault} :
    membersOf v = .error fault ↔ Memberless v ∧ fault = .noMembers := by
  constructor
  · intro failed
    cases v with
    | object members => cases failed
    | null | bool b | int n | float x | string s | array items =>
      cases failed
      exact ⟨nofun, rfl⟩
  · rintro ⟨plain, rfl⟩
    cases v with
    | object members => exact absurd rfl (plain members)
    | null | bool b | int n | float x | string s | array items => rfl

theorem membersOrNone_eq_error {given : Option Value} {fault : ShapeFault} :
    membersOrNone given = .error fault ↔ Unsearchable given ∧ fault = .noMembers := by
  constructor
  · intro failed
    cases given with
    | none => cases failed
    | some v =>
      rw [membersOrNone] at failed
      split at failed
      · next present =>
        obtain ⟨plain, named⟩ := membersOf_eq_error.mp failed
        exact ⟨⟨v, rfl, present, plain⟩, named⟩
      · cases failed
  · rintro ⟨⟨v, rfl, present, plain⟩, named⟩
    rw [membersOrNone, if_pos present]
    exact membersOf_eq_error.mpr ⟨plain, named⟩

/-- What is found among members that may be missing is found in an object that is there. -/
theorem membersOrNone_found {given : Option Value} {members : Members} {key : List Glyph}
    {v : Value} (there : membersOrNone given = .ok members)
    (found : Members.get? key members = some v) : given = some (.object members) := by
  cases given with
  | none =>
    cases there
    cases found
  | some whole =>
    rw [membersOrNone] at there
    split at there
    · cases whole with
      | object own =>
        cases there
        rfl
      | null | bool b | int n | float x | string s | array items => cases there
    · cases there
      cases found

theorem membersOrNone_of_found {members : Members} {key : List Glyph} {v : Value}
    (found : Members.get? key members = some v) :
    membersOrNone (some (.object members)) = .ok members := by
  cases members with
  | nil => cases found
  | cons first rest => rfl

theorem itemsOf_eq_error {v : Value} {fault : ShapeFault} :
    itemsOf v = .error fault ↔ Itemless v ∧ fault = .noItems := by
  constructor
  · intro failed
    cases v with
    | array items => cases failed
    | string s => cases failed
    | object members => cases failed
    | null | bool b | int n | float x =>
      cases failed
      exact ⟨⟨nofun, nofun, nofun⟩, rfl⟩
  · rintro ⟨⟨noObject, noArray, noText⟩, rfl⟩
    cases v with
    | array items => exact absurd rfl (noArray items)
    | string s => exact absurd rfl (noText s)
    | object members => exact absurd rfl (noObject members)
    | null | bool b | int n | float x => rfl

theorem rolesOf_eq (description : Members) :
    rolesOf description =
      match statedRoles description with
      | none =>
        (membersOrNone (Members.get? (Glyph.ofString "attributes") description)).map
          fun attributes => ["master", "data"].filter (grants attributes)
      | some roles => itemsOf roles := by
  have older :
      (do
        let attributes ← membersOrNone (Members.get? (Glyph.ofString "attributes") description)
        return ["master", "data"].filter (grants attributes)) =
      (membersOrNone (Members.get? (Glyph.ofString "attributes") description)).map
        fun attributes => ["master", "data"].filter (grants attributes) := by
    cases membersOrNone (Members.get? (Glyph.ofString "attributes") description) <;> rfl
  rw [rolesOf, statedRoles]
  rcases Members.get? (Glyph.ofString "roles") description with _ | roles
  · exact older
  · cases roles with
    | null => exact older
    | bool b | int n | float x | string s | array items | object members => rfl

/-! ## Descriptions -/

theorem ofDocument_object {id : String} {description http : Members}
    (there : membersOrNone (Members.get? (Glyph.ofString "http") description) = .ok http) :
    Node.ofDocument id (.object description) =
      match Members.get? (Glyph.ofString "publish_address") http with
      | some address =>
        if address.isPresent then
          (rolesOf description).map fun roles =>
            let name :=
              ((Members.get? (Glyph.ofString "name") description).map Value.text).getD id
            some ⟨id, name, publishedAddress address.text, roles.eraseDups⟩
        else .ok none
      | none => .ok none := by
  have read : membersOf (.object description) = .ok description := rfl
  rw [Node.ofDocument, read]
  simp only [bind, Except.bind, there]
  rcases Members.get? (Glyph.ofString "publish_address") http with _ | address
  · rfl
  · cases rolesOf description <;> rfl

theorem ofDocument_published {id : String} {description : Members} {fault : ShapeFault}
    (published : Published description) :
    Node.ofDocument id (.object description) = .error fault ↔
      rolesOf description = .error fault := by
  obtain ⟨http, address, given, found, present⟩ := published
  have there : membersOrNone (Members.get? (Glyph.ofString "http") description) = .ok http := by
    rw [given]
    exact membersOrNone_of_found found
  rw [ofDocument_object there, found]
  dsimp only
  rw [if_pos present, map_eq_error]

theorem flawed_of_error {id : String} {document : Value} {fault : ShapeFault}
    (failed : Node.ofDocument id document = .error fault) : Flawed document fault := by
  -- The parts are read in the order of the constructors, and the first that fails is the flaw.
  cases read : membersOf document with
  | error other =>
    rw [Node.ofDocument, read] at failed
    cases failed
    obtain ⟨plain, rfl⟩ := membersOf_eq_error.mp read
    exact .entry plain
  | ok description =>
    obtain rfl : document = .object description := by
      cases document with
      | object members =>
        cases read
        rfl
      | null | bool b | int n | float x | string s | array items => cases read
    cases there : membersOrNone (Members.get? (Glyph.ofString "http") description) with
    | error other =>
      rw [Node.ofDocument, read] at failed
      simp only [bind, Except.bind, there] at failed
      cases failed
      obtain ⟨wrong, rfl⟩ := membersOrNone_eq_error.mp there
      exact .http wrong
    | ok http =>
      have published : Published description := by
        rw [ofDocument_object there] at failed
        split at failed
        · next address found =>
          split at failed
          · next present =>
            exact ⟨http, address, membersOrNone_found there found, found, present⟩
          · cases failed
        · cases failed
      rw [ofDocument_published published, rolesOf_eq] at failed
      cases roles : statedRoles description with
      | none =>
        rw [roles] at failed
        obtain ⟨wrong, rfl⟩ := membersOrNone_eq_error.mp (map_eq_error.mp failed)
        exact .attributes published roles wrong
      | some given =>
        rw [roles] at failed
        obtain ⟨wrong, rfl⟩ := itemsOf_eq_error.mp failed
        exact .roles published roles wrong

theorem error_of_flawed {id : String} {document : Value} {fault : ShapeFault}
    (flawed : Flawed document fault) : Node.ofDocument id document = .error fault := by
  cases flawed with
  | entry plain =>
    rw [Node.ofDocument, membersOf_eq_error.mpr ⟨plain, rfl⟩]
    rfl
  | @http description wrong =>
    have read : membersOf (.object description) = .ok description := rfl
    rw [Node.ofDocument, read]
    simp only [bind, Except.bind, membersOrNone_eq_error.mpr ⟨wrong, rfl⟩]
  | attributes published roleless wrong =>
    rw [ofDocument_published published, rolesOf_eq, roleless]
    exact map_eq_error.mpr (membersOrNone_eq_error.mpr ⟨wrong, rfl⟩)
  | roles published given wrong =>
    rw [ofDocument_published published, rolesOf_eq, given]
    exact itemsOf_eq_error.mpr ⟨wrong, rfl⟩

/-- The descriptions that cannot be read are those with a flaw. -/
theorem ofDocument_eq_error {id : String} {document : Value} {fault : ShapeFault} :
    Node.ofDocument id document = .error fault ↔ Flawed document fault :=
  ⟨flawed_of_error, error_of_flawed⟩

/-! ## Many descriptions -/

/-- A traversal fails with the fault of the first element that fails. -/
theorem unflawed_iff {id : String} {document : Value} :
    (∀ fault, ¬ Flawed document fault) ↔ ∃ n, Node.ofDocument id document = .ok n := by
  cases read : Node.ofDocument id document with
  | error fault =>
    refine ⟨fun fine => absurd (ofDocument_eq_error.mp read) (fine fault), nofun⟩
  | ok n =>
    refine ⟨fun _ => ⟨n, rfl⟩, fun _ fault flawed => ?_⟩
    rw [ofDocument_eq_error.mpr flawed] at read
    cases read

/-- Descriptions cannot be read if one of them cannot, and the first one that cannot be read is the
one that is told. -/
theorem ofDocuments_eq_error {descriptions : Members} {fault : ShapeFault} :
    Node.ofDocuments descriptions = .error fault ↔ FirstFlawed descriptions fault := by
  rw [Node.ofDocuments, map_eq_error, mapM_eq_error]
  constructor
  · rintro ⟨before, ⟨key, document⟩, after, split, read, failed⟩
    refine ⟨before, key, document, after, split, fun entry present => ?_,
      ofDocument_eq_error.mp failed⟩
    exact unflawed_iff.mpr (read entry present)
  · rintro ⟨before, key, document, after, split, unflawed, flawed⟩
    refine ⟨before, (key, document), after, split, fun entry present => ?_,
      ofDocument_eq_error.mpr flawed⟩
    exact unflawed_iff.mp (unflawed entry present)

end Clearance.Rest
