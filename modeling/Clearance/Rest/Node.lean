import Clearance.Json.Shown
import Clearance.Fault
import Clearance.Text.Blank
import Clearance.Text.Lower

/-!
# Nodes as the cluster describes them

The cluster describes each of its nodes by a document. A node without a published address takes no
requests and is passed over. Older clusters give no roles; there a node can be master and holds data
unless its attributes say `false`. Names, roles and addresses are texts of characters: of half a
surrogate pair that stands alone only its place is kept.

* Asked for any role, every node qualifies (`satisfies_any`).
-/

namespace Clearance.Rest

open Clearance.Json (Value Members)
open Clearance.Text (Glyph)

/-- A node of the cluster that takes requests. -/
structure Node where
  id : String
  name : String
  address : String
  /-- The roles that the cluster gives it, every one once. -/
  roles : List String
  deriving DecidableEq, Repr

namespace Node

/-- Whether the node holds data, all of it or one tier. -/
def isData (n : Node) : Bool :=
  n.roles.any fun role => role == "data" || "data_".toList.isPrefixOf role.toList

/-- Whether the node runs ingest pipelines. -/
def isIngest (n : Node) : Bool :=
  n.roles.contains "ingest"

/-- Whether the node only coordinates: it can be no master, holds no data and runs no pipelines. -/
def isClient (n : Node) : Bool :=
  !n.roles.contains "master" && !n.isData && !n.isIngest

/-- Whether the node can be asked to play the role. -/
def satisfies (n : Node) : Role → Bool
  | .any => true
  | .data => n.isData
  | .client => n.isClient
  | .ingest => n.isIngest

/-- The roles from the least to the greatest text. -/
def sortedRoles (n : Node) : List String :=
  n.roles.mergeSort fun a b => a ≤ b

end Node

/-! ## Published addresses -/

/-- What stands between `inet[` and `]`, if the text is of that form. -/
def withoutInet (s : List Char) : List Char :=
  if "inet[".toList.isPrefixOf s && s.getLast? == some ']' then (s.drop 5).dropLast else s

/-- What stands behind the last slash. -/
def behindSlash (s : List Char) : List Char :=
  (s.reverse.takeWhile (· != '/')).reverse

/-- The address that a node publishes, reduced to host and port: a host name may stand before it,
and the older form puts it all in brackets. -/
def publishedAddress (s : String) : String :=
  String.ofList (behindSlash (withoutInet (Text.trim s.toList)))

/-! ## Descriptions -/

/-- The members of a value that has members. -/
def membersOf : Value → Except ShapeFault Members
  | .object members => .ok members
  | _ => .error .noMembers

/-- The members of a value that may be missing; one that is not present has none. -/
def membersOrNone (v : Option Value) : Except ShapeFault Members :=
  match v with
  | some v => if v.isPresent then membersOf v else .ok []
  | none => .ok []

/-- The items of a value that has items: those of an array, the characters of a text, the keys of
an object. -/
def itemsOf : Value → Except ShapeFault (List String)
  | .array items => .ok (items.map Value.text)
  | .string s => .ok (s.map fun g => Glyph.toText [g])
  | .object members => .ok (members.map fun (key, _) => Glyph.toText key)
  | _ => .error .noItems

/-- Whether an attribute of an older node grants a role: it does unless it says `false`. -/
def grants (attributes : Members) (role : String) : Bool :=
  match Members.get? (Glyph.ofString role) attributes with
  | some v => String.ofList (Text.lower v.text.toList) ≠ "false"
  | none => true

/-- The roles in the description of a node. -/
def rolesOf (description : Members) : Except ShapeFault (List String) :=
  match Members.get? (Glyph.ofString "roles") description with
  | none | some .null => do
    let attributes ← membersOrNone (Members.get? (Glyph.ofString "attributes") description)
    return ["master", "data"].filter (grants attributes)
  | some roles => itemsOf roles

/-- The node of a description, or nothing if it takes no requests. -/
def Node.ofDocument (id : String) (document : Value) : Except ShapeFault (Option Node) := do
  let description ← membersOf document
  let http ← membersOrNone (Members.get? (Glyph.ofString "http") description)
  match Members.get? (Glyph.ofString "publish_address") http with
  | none => return none
  | some address =>
    if address.isPresent then
      let roles ← rolesOf description
      let name := ((Members.get? (Glyph.ofString "name") description).map Value.text).getD id
      return some ⟨id, name, publishedAddress address.text, roles.eraseDups⟩
    else return none

/-- The nodes of the descriptions, as far as they take requests. -/
def Node.ofDocuments (descriptions : Members) : Except ShapeFault (List Node) :=
  (descriptions.mapM fun (key, document) => Node.ofDocument (Glyph.toText key) document).map
    fun (nodes : List (Option Node)) => nodes.filterMap fun n => n

/-- The addresses of the nodes that satisfy a role, every one once. -/
def Node.addresses (nodes : List Node) (role : Role) : List String :=
  ((nodes.filter (·.satisfies role)).map Node.address).eraseDups

theorem Node.satisfies_any (n : Node) : n.satisfies .any = true := rfl

end Clearance.Rest
