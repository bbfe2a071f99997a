import Clearance.Http.Script
import Clearance.Proofs.FirstOccurrence
import Clearance.Proofs.Rest.Shape
import Clearance.Proofs.Rest.Statement

/-!
# The nodes of a role

A cluster describes its nodes one after the other. Some take no requests, some come from a time
before there were roles, and several may give one address. Which of them are listed for a role, and
in which order, is told here by the descriptions alone; a session gives the same list.

Results:
1. `WellShaped`, `read_of_wellShaped`: the descriptions that can be read.
2. `HasRole`, `mem_rolesOf`: the roles of a node that is described.
3. `Qualifies`, `ReadFrom.satisfies_iff`: what a role asks for.
4. `Listing`, `Listing.unique`, `listing_of_read`: the list for a role, description by description.
5. `nodes_by_role`: the answers of a session that does not know the nodes yet.
-/

namespace Clearance.Rest

open Http (Client Request Response)
open Json (Members Value)
open Text (Glyph)

/-! ## Descriptions that can be read -/

/-- What the description says about HTTP and its attributes is missing or has members, and what it
says about roles is missing or has items. -/
structure WellShaped (description : Members) : Prop where
  http : ¬ Unsearchable (Members.get? (Glyph.ofString "http") description)
  roles : ∀ roles, statedRoles description = some roles → ¬ Itemless roles
  attributes : ¬ Unsearchable (Members.get? (Glyph.ofString "attributes") description)

/-- The descriptions are objects that can be read. -/
def AllWellShaped (descriptions : Members) : Prop :=
  ∀ entry ∈ descriptions, ∃ description, entry.2 = .object description ∧ WellShaped description

variable {ω : Type} {description : Members}

theorem not_unsearchable {given : Option Value} {members : Members}
    (there : membersOrNone given = .ok members) : ¬ Unsearchable given := by
  intro wrong
  cases (membersOrNone_eq_error.mpr ⟨wrong, rfl⟩).symm.trans there

theorem wellShaped_of_read {http attributes : Members}
    (hasHttp : membersOrNone (Members.get? (Glyph.ofString "http") description) = .ok http)
    (hasAttributes : membersOrNone (Members.get? (Glyph.ofString "attributes") description) =
      .ok attributes)
    (hasRoles : ∀ roles, statedRoles description = some roles →
      ∃ items, itemsOf roles = .ok items) :
    WellShaped description where
  http := not_unsearchable hasHttp
  roles roles given wrong := by
    obtain ⟨items, read⟩ := hasRoles roles given
    cases (itemsOf_eq_error.mpr ⟨wrong, rfl⟩).symm.trans read
  attributes := not_unsearchable hasAttributes

theorem unflawed_of_wellShaped (shaped : WellShaped description) (fault : ShapeFault) :
    ¬ Flawed (.object description) fault := by
  intro flawed
  cases flawed with
  | entry plain => exact plain description rfl
  | http wrong => exact shaped.http wrong
  | attributes _ _ wrong => exact shaped.attributes wrong
  | roles _ given wrong => exact shaped.roles _ given wrong

theorem read_of_wellShaped {descriptions : Members} (shaped : AllWellShaped descriptions) :
    ∃ nodes, Node.ofDocuments descriptions = .ok nodes := by
  cases read : Node.ofDocuments descriptions with
  | ok nodes => exact ⟨nodes, rfl⟩
  | error fault =>
    obtain ⟨before, key, document, after, split, -, flawed⟩ := ofDocuments_eq_error.mp read
    have present : (key, document) ∈ descriptions := by simp [split]
    obtain ⟨description, rfl, fine⟩ := shaped _ present
    exact absurd flawed (unflawed_of_wellShaped fine fault)

/-! ## Roles that are described -/

/-- The attributes of an older node take the role from it. -/
def Denied (description : Members) (role : String) : Prop :=
  ∃ attributes v,
    Members.get? (Glyph.ofString "attributes") description = some (.object attributes) ∧
    Members.get? (Glyph.ofString role) attributes = some v ∧
    String.ofList (Text.lower v.text.toList) = "false"

/-- The node that is described has the role. -/
inductive HasRole (description : Members) (role : String) : Prop
  | stated {roles : Value} {items : List String} (given : statedRoles description = some roles)
      (read : itemsOf roles = .ok items) (present : role ∈ items) : HasRole description role
  /-- A node that says nothing about its roles can be master and holds data. -/
  | older (roleless : statedRoles description = none) (usual : role = "master" ∨ role = "data")
      (kept : ¬ Denied description role) : HasRole description role

theorem grants_eq_true {attributes : Members} {role : String}
    (there : membersOrNone (Members.get? (Glyph.ofString "attributes") description) =
      .ok attributes) :
    grants attributes role = true ↔ ¬ Denied description role := by
  unfold grants
  split
  · next v found =>
    have given := membersOrNone_found there found
    rw [decide_eq_true_iff]
    refine not_congr ⟨fun denies => ⟨attributes, v, given, found, denies⟩, ?_⟩
    rintro ⟨_, _, same, same', denies⟩
    cases given.symm.trans same
    cases found.symm.trans same'
    exact denies
  · next missing =>
    refine iff_of_true rfl ?_
    rintro ⟨own, v, given, found, -⟩
    rw [given, membersOrNone_of_found found] at there
    cases there
    cases missing.symm.trans found

theorem mem_rolesOf {roles : List String} (read : rolesOf description = .ok roles)
    {role : String} : role ∈ roles ↔ HasRole description role := by
  -- Roles that are stated are read as they are; the attributes only count where there are none.
  rw [rolesOf_eq] at read
  cases given : statedRoles description with
  | some stated =>
    rw [given] at read
    refine ⟨fun present => .stated given read present, fun has => ?_⟩
    cases has with
    | stated given' read' present =>
      cases given.symm.trans given'
      cases read.symm.trans read'
      exact present
    | older roleless => cases given.symm.trans roleless
  | none =>
    rw [given] at read
    cases there : membersOrNone (Members.get? (Glyph.ofString "attributes") description) with
    | error fault =>
      rw [there] at read
      cases read
    | ok attributes =>
      rw [there] at read
      cases read
      rw [List.mem_filter, grants_eq_true there]
      constructor
      · rintro ⟨usual, kept⟩
        exact .older given (by simpa using usual) kept
      · intro has
        cases has with
        | stated given' => cases given.symm.trans given'
        | older _ usual kept => exact ⟨by simpa using usual, kept⟩

/-! ## What a role asks for -/

/-- Of this role is a node that holds data, all of it or one tier. -/
def HoldsData (role : String) : Prop :=
  role = "data" ∨ "data_".toList <+: role.toList

/-- The node that is described can be asked to play the role. -/
def Qualifies (description : Members) : Role → Prop
  | .any => True
  | .data => ∃ role, HasRole description role ∧ HoldsData role
  | .client => ¬ HasRole description "master" ∧
      (∀ role, HasRole description role → ¬ HoldsData role) ∧ ¬ HasRole description "ingest"
  | .ingest => HasRole description "ingest"

/-- The description gives an address that reduces to this one. -/
def PublishedAs (description : Members) (address : String) : Prop :=
  ∃ http given, Members.get? (Glyph.ofString "http") description = some (.object http) ∧
    Members.get? (Glyph.ofString "publish_address") http = some given ∧ given.isPresent = true ∧
    address = publishedAddress given.text

theorem PublishedAs.unique {address other : String} (first : PublishedAs description address)
    (second : PublishedAs description other) : address = other := by
  obtain ⟨_, _, http, given, -, rfl⟩ := first
  obtain ⟨_, _, http', given', -, rfl⟩ := second
  cases http.symm.trans http'
  cases given.symm.trans given'
  rfl

theorem isData_eq_true {n : Node} : n.isData = true ↔ ∃ role ∈ n.roles, HoldsData role := by
  simp only [Node.isData, HoldsData, List.any_eq_true, Bool.or_eq_true, beq_iff_eq,
    List.isPrefixOf_iff_prefix]

/-- A node that only coordinates neither holds data nor runs pipelines. -/
theorem client_apart {n : Node} (client : n.satisfies .client = true) :
    ¬ n.satisfies .data = true ∧ ¬ n.satisfies .ingest = true := by
  simp only [Node.satisfies, Node.isClient, Bool.and_eq_true, Bool.not_eq_true'] at client
  simp [Node.satisfies, client]

/-- The node was read from a description of an address and of these roles. -/
structure ReadFrom (n : Node) (description : Members) : Prop where
  address : PublishedAs description n.address
  roles : ∀ {role}, role ∈ n.roles ↔ HasRole description role

theorem ReadFrom.satisfies_iff {n : Node} (read : ReadFrom n description) {role : Role} :
    n.satisfies role = true ↔ Qualifies description role := by
  have data : n.isData = true ↔ ∃ role, HasRole description role ∧ HoldsData role := by
    simp only [isData_eq_true, read.roles]
  cases role with
  | any => exact iff_of_true rfl trivial
  | data => exact data
  | ingest => simp [Node.satisfies, Node.isIngest, Qualifies, read.roles]
  | client =>
    have none : n.isData = false ↔ ∀ role, HasRole description role → ¬ HoldsData role := by
      rw [← Bool.not_eq_true, data]
      simp
    simp [Node.satisfies, Node.isClient, Node.isIngest, Qualifies, read.roles, none, and_assoc]

theorem object_of_read {id : String} {document : Value} {n : Option Node}
    (read : Node.ofDocument id document = .ok n) :
    ∃ description, document = .object description := by
  cases document with
  | object description => exact ⟨description, rfl⟩
  | null | bool b | int i | float x | string s | array items => cases read

theorem ofDocument_eq_some {id : String} {n : Node}
    (read : Node.ofDocument id (.object description) = .ok (some n)) : ReadFrom n description := by
  cases there : membersOrNone (Members.get? (Glyph.ofString "http") description) with
  | error fault =>
    have flawed : Flawed (.object description) fault := by
      obtain ⟨wrong, rfl⟩ := membersOrNone_eq_error.mp there
      exact .http wrong
    cases (ofDocument_eq_error.mpr flawed).symm.trans read
  | ok http =>
    rw [ofDocument_object there] at read
    split at read
    · next address found =>
      split at read
      · next present =>
        cases roles : rolesOf description with
        | error fault =>
          rw [roles] at read
          cases read
        | ok items =>
          rw [roles] at read
          cases read
          refine ⟨⟨http, address, membersOrNone_found there found, found, present, rfl⟩, ?_⟩
          intro role
          rw [List.mem_eraseDups, mem_rolesOf roles]
      · cases read
    · cases read

theorem ofDocument_eq_none {id : String}
    (read : Node.ofDocument id (.object description) = .ok none) (address : String) :
    ¬ PublishedAs description address := by
  rintro ⟨http, given, there, found, present, -⟩
  rw [ofDocument_object (by rw [there]; exact membersOrNone_of_found found), found] at read
  dsimp only at read
  rw [if_pos present] at read
  cases roles : rolesOf description <;> rw [roles] at read <;> cases read

/-! ## Lists for a role -/

/-- The addresses of the nodes that qualify for a role, description by description. -/
inductive Listing (role : Role) : Members → List String → Prop
  | nobody : Listing role [] []
  | listed {key : List Glyph} {description rest : Members} {address : String}
      {others : List String} (published : PublishedAs description address)
      (able : Qualifies description role) (later : Listing role rest others) :
      Listing role ((key, .object description) :: rest) (address :: others)
  | passedOver {key : List Glyph} {description rest : Members} {others : List String}
      (unable : ∀ address, PublishedAs description address → ¬ Qualifies description role)
      (later : Listing role rest others) :
      Listing role ((key, .object description) :: rest) others

namespace Listing

variable {role : Role} {descriptions : Members} {all all' : List String}

/-- The descriptions leave no choice. -/
theorem unique (first : Listing role descriptions all) (second : Listing role descriptions all') :
    all = all' := by
  induction first generalizing all' with
  | nobody =>
    cases second
    rfl
  | listed published able _ ih =>
    cases second with
    | listed published' _ later => rw [published.unique published', ih later]
    | passedOver unable => exact absurd able (unable _ published)
  | passedOver unable _ ih =>
    cases second with
    | listed published able => exact absurd able (unable _ published)
    | passedOver _ later => exact ih later

theorem mem_iff (listing : Listing role descriptions all) {address : String} :
    address ∈ all ↔ ∃ key description, (key, Value.object description) ∈ descriptions ∧
      PublishedAs description address ∧ Qualifies description role := by
  induction listing with
  | nobody => simp
  | @listed key description rest first others published able _ ih =>
    rw [List.mem_cons, ih]
    constructor
    · rintro (rfl | ⟨key', own, present, good⟩)
      · exact ⟨key, description, List.mem_cons_self, published, able⟩
      · exact ⟨key', own, List.mem_cons_of_mem _ present, good⟩
    · rintro ⟨key', own, present, published', able'⟩
      rcases List.mem_cons.mp present with same | present
      · cases same
        exact .inl (published'.unique published)
      · exact .inr ⟨key', own, present, published', able'⟩
  | passedOver unable _ ih =>
    rw [ih]
    constructor
    · rintro ⟨key', own, present, good⟩
      exact ⟨key', own, List.mem_cons_of_mem _ present, good⟩
    · rintro ⟨key', own, present, published, able⟩
      rcases List.mem_cons.mp present with same | present
      · cases same
        exact absurd able (unable _ published)
      · exact ⟨key', own, present, published, able⟩

end Listing

theorem ofDocuments_cons {key : List Glyph} {document : Value} {rest : Members} {nodes : List Node}
    (read : Node.ofDocuments ((key, document) :: rest) = .ok nodes) :
    ∃ first later, Node.ofDocument (Glyph.toText key) document = .ok first ∧
      Node.ofDocuments rest = .ok later ∧ nodes = first.toList ++ later := by
  rw [Node.ofDocuments, List.mapM_cons] at read
  cases head : Node.ofDocument (Glyph.toText key) document with
  | error fault =>
    simp only [head] at read
    cases read
  | ok first =>
    simp only [head] at read
    rw [Node.ofDocuments]
    cases tail : rest.mapM fun entry => Node.ofDocument (Glyph.toText entry.1) entry.2 with
    | error fault =>
      rw [tail] at read
      cases read
    | ok others =>
      rw [tail] at read
      cases read
      refine ⟨first, _, rfl, rfl, ?_⟩
      cases first <;> rfl

/-- What is read from descriptions is listed as they say. -/
theorem listing_of_read {descriptions : Members} {nodes : List Node}
    (read : Node.ofDocuments descriptions = .ok nodes) (role : Role) :
    Listing role descriptions ((nodes.filter (·.satisfies role)).map Node.address) := by
  induction descriptions generalizing nodes with
  | nil =>
    cases read
    exact .nobody
  | cons entry rest ih =>
    obtain ⟨key, document⟩ := entry
    obtain ⟨first, later, head, tail, rfl⟩ := ofDocuments_cons read
    obtain ⟨description, rfl⟩ := object_of_read head
    have listing := ih tail
    -- No node comes of a description without an address. One that does may still not qualify.
    cases first with
    | none =>
      exact .passedOver (fun _ published => absurd published (ofDocument_eq_none head _)) listing
    | some n =>
      have own := ofDocument_eq_some head
      rw [Option.toList_some, List.singleton_append, List.filter_cons]
      split
      · next able => exact .listed own.address (own.satisfies_iff.mp able) listing
      · next unable =>
        exact .passedOver (fun _ _ able => unable (own.satisfies_iff.mpr able)) listing

/-! ## Answers -/

/-- What is told for the roles is what the descriptions say. -/
structure ListedByRole (descriptions : Members) (told : Role → List String) : Prop where
  described : ∀ role, ∃ all, Listing role descriptions all
  /-- The addresses of the nodes that qualify are told in order, each where it occurs first. -/
  first : ∀ role all, Listing role descriptions all → told role = all.eraseDups
  distinct : ∀ role, (told role).Nodup
  mem_iff : ∀ role address, address ∈ told role ↔
    ∃ key description, (key, Value.object description) ∈ descriptions ∧
      PublishedAs description address ∧ Qualifies description role
  /-- No node that only coordinates counts as one that holds data or runs pipelines. -/
  apart : ∀ key description, (key, Value.object description) ∈ descriptions →
    ∀ n, Node.ofDocument (Glyph.toText key) (.object description) = .ok (some n) →
      n.satisfies .client = true → ¬ n.satisfies .data = true ∧ ¬ n.satisfies .ingest = true
  among : ∀ role, ∀ address ∈ told role, address ∈ told .any

theorem listedByRole_of_read {descriptions : Members} {nodes : List Node}
    (read : Node.ofDocuments descriptions = .ok nodes) :
    ListedByRole descriptions (Node.addresses nodes) where
  described role := ⟨_, listing_of_read read role⟩
  first role all listing := by
    rw [Node.addresses, listing.unique (listing_of_read read role)]
  distinct role := nodup_eraseDups _
  mem_iff role address := by
    rw [Node.addresses, List.mem_eraseDups]
    exact (listing_of_read read role).mem_iff
  apart _ _ _ _ _ client := client_apart client
  among role := addresses_subset nodes role

/-- A session that does not know the nodes asks for them. If the first node that answers does so
with status 200 and descriptions that can be read, what is told for every role is what they say. As
the nodes are kept, it is told again without a request whatever has become of the world. -/
theorem nodes_by_role (client : Client ω) {session : Session} (unknown : session.known = none)
    {world after : ω} {sent : List Request} {response : Response}
    (answered : FirstAnswer client session .get "/_nodes/http" world sent response after)
    {document descriptions : Members} (holds : Holds response document)
    (given : Members.get? (Glyph.ofString "nodes") document = some (.object descriptions))
    (shaped : AllWellShaped descriptions) (before : List Request) :
    ∃ nodes told, ListedByRole descriptions told ∧ ∀ role,
      let keeping : Session := { session with known := some nodes }
      (channel client).answer (.nodes role) session ⟨world, before⟩ =
        (.ok (told role), keeping, ⟨after, before ++ sent⟩) ∧
      ∀ line, (channel client).answer (.nodes role) keeping line =
        (.ok (told role), keeping, line) := by
  obtain ⟨nodes, read⟩ := read_of_wellShaped shaped
  refine ⟨nodes, _, listedByRole_of_read read, fun role => ⟨?_, fun line => ?_⟩⟩
  · -- The one request for the nodes brings the document, and the nodes are read in it.
    obtain ⟨outcome, came, learned⟩ := Learns.fetch "/_nodes/http" _ _ _ _ answered before
    obtain rfl := (learned.told document).mpr ⟨_, rfl, holds⟩
    have described : nodesOf document = .ok nodes := by
      rw [nodesOf, given]
      dsimp only
      rw [read]
      rfl
    have told := addressesOf_fetched unknown came role
    dsimp only [Except.bind] at told
    rw [described] at told
    exact answer_of_inquire told
  · exact answer_of_inquire (addressesOf_known rfl role)

/-- The description of an address, and whatever else there is. -/
def publishing (address : String) (more : Members) : Value :=
  .object ((Glyph.ofString "http",
    .object [(Glyph.ofString "publish_address", .ofString address)]) :: more)

/-- A node of a data tier, an older node that neither can be master nor holds data, a node that
takes no requests, and a node without roles that gives the address of the first one. -/
def mixedNodes : Members :=
  [(Glyph.ofString "1", publishing "one/a:9200"
      [(Glyph.ofString "roles", .array [.ofString "data_hot", .ofString "ingest"])]),
   (Glyph.ofString "2", publishing "inet[/b:9200]" [(Glyph.ofString "attributes", .object
      [(Glyph.ofString "master", .ofString "False"), (Glyph.ofString "data", .bool false)])]),
   (Glyph.ofString "3", .object [(Glyph.ofString "http", .null)]),
   (Glyph.ofString "4", publishing "a:9200" [(Glyph.ofString "roles", .array [])])]

/-- The answer that describes these nodes. -/
def mixedAnswer : Http.Page where
  status := 200
  body := ("\x7b\"nodes\": \x7b" ++
    "\"1\": \x7b\"http\": \x7b\"publish_address\": \"one/a:9200\"\x7d, " ++
      "\"roles\": [\"data_hot\", \"ingest\"]\x7d, " ++
    "\"2\": \x7b\"http\": \x7b\"publish_address\": \"inet[/b:9200]\"\x7d, " ++
      "\"attributes\": \x7b\"master\": \"False\", \"data\": false\x7d\x7d, " ++
    "\"3\": \x7b\"http\": null\x7d, " ++
    "\"4\": \x7b\"http\": \x7b\"publish_address\": \"a:9200\"\x7d, " ++
      "\"roles\": []\x7d\x7d\x7d").toUTF8.data.toList

theorem wellShaped_mixed : AllWellShaped mixedNodes := by
  have listed (address : String) (items : List Value) :
      WellShaped [(Glyph.ofString "http",
        .object [(Glyph.ofString "publish_address", .ofString address)]),
        (Glyph.ofString "roles", .array items)] := by
    refine wellShaped_of_read (by rfl) (by rfl) fun roles stated => ?_
    cases stated
    exact ⟨_, rfl⟩
  simp only [AllWellShaped, mixedNodes, List.forall_mem_cons]
  refine ⟨⟨_, rfl, listed _ _⟩, ⟨_, rfl, ?_⟩, ⟨_, rfl, ?_⟩, ⟨_, rfl, listed _ _⟩, nofun⟩
  · exact wellShaped_of_read (by rfl) (by rfl) nofun
  · exact wellShaped_of_read (by rfl) (by rfl) nofun

set_option maxRecDepth 4000 in
/-- The address that two nodes share is listed for data and for coordinating, though neither of them
does both. -/
theorem shared_address_by_role :
    let client := Http.Script.wire
    let session : Session := { nodes := ["a:9200"] }
    let script : Http.Script := [{ reply := .ok mixedAnswer }]
    let sent := [session.requestTo .get "/_nodes/http" "a:9200"]
    let response : Response := ⟨200, "OK", "a", some 9200, mixedAnswer.body⟩
    let document : Members := [(Glyph.ofString "nodes", .object mixedNodes)]
    session.known = none ∧
      FirstAnswer client session .get "/_nodes/http" script sent response script ∧
      Holds response document ∧
      Members.get? (Glyph.ofString "nodes") document = some (.object mixedNodes) ∧
      AllWellShaped mixedNodes ∧
      ∃ told, ListedByRole mixedNodes told ∧ told .data = ["a:9200"] ∧
        told .client = ["b:9200", "a:9200"] := by
  intro client session script sent response document
  have answered : FirstAnswer client session .get "/_nodes/http" script sent response script :=
    .answered (by decide +kernel)
  have holds : Holds response document := ⟨rfl, by rfl⟩
  have given : Members.get? (Glyph.ofString "nodes") document = some (.object mixedNodes) := by
    rfl
  obtain ⟨nodes, told, listed, answers⟩ :=
    nodes_by_role client rfl answered holds given wellShaped_mixed []
  have data : ((channel client).answer (.nodes .data) session ⟨script, []⟩).1 =
      .ok ["a:9200"] := by decide +kernel
  have clients : ((channel client).answer (.nodes .client) session ⟨script, []⟩).1 =
      .ok ["b:9200", "a:9200"] := by decide +kernel
  rw [(answers .data).1] at data
  rw [(answers .client).1] at clients
  exact ⟨rfl, answered, holds, given, wellShaped_mixed, told, listed, Except.ok.inj data,
    Except.ok.inj clients⟩

end Clearance.Rest
