import Clearance.Proofs.Rest.Listing
import Clearance.Proofs.Text.Trim

/-!
# Published addresses

A node gives the address at which it takes requests in one of three spellings: alone, behind a host
name and a slash, or in the older form with `inet` and brackets around it. Host names may hold
slashes and brackets themselves, and so may what is no address at all. Whatever is published is
reduced to a text without a slash, which is told here by the spelling.

Results:
1. `EndsIn`, `behindSlash_eq_iff`: what is behind the last slash.
2. `older`, `withoutInet_older`, `withoutInet_of_other`: the older form, and everything else.
3. `Publishes`, `publishedAddress_eq_iff`: the address of a text, told without taking it apart.
4. `publishedAddress_older`, `publishedAddress_behind`, `publishedAddress_alone`: the three
   spellings.
5. `slashless_of_told`: no address that is told for a role has a slash.
6. `address_published`: the spellings, blanks around them, and all other texts.
-/

namespace Clearance.Rest

open Text (isBlank Solid trim)

/-! ## Behind a host name -/

/-- The address is behind the last slash of the text, or all of a text that has none. -/
inductive EndsIn : List Char → List Char → Prop
  | alone {address : List Char} (slashless : '/' ∉ address) : EndsIn address address
  | behind {name address : List Char} (slashless : '/' ∉ address) :
      EndsIn (name ++ '/' :: address) address

theorem EndsIn.slashless {s address : List Char} (ends : EndsIn s address) : '/' ∉ address := by
  cases ends with
  | alone slashless => exact slashless
  | behind slashless => exact slashless

theorem behindSlash_eq_iff {s address : List Char} :
    behindSlash s = address ↔ EndsIn s address := by
  have alone {s : List Char} (slashless : '/' ∉ s) : behindSlash s = s := by
    have turned : '/' ∉ s.reverse := fun present => slashless (List.mem_reverse.mp present)
    unfold behindSlash
    rw [(Text.span_none turned).1, List.reverse_reverse]
  constructor
  · rintro rfl
    by_cases slash : '/' ∈ s
    · obtain ⟨name, rest, rfl, slashless⟩ := Text.exists_last slash
      unfold behindSlash
      rw [Text.behind_last slashless]
      exact .behind slashless
    · rw [alone slash]
      exact .alone slash
  · intro ends
    cases ends with
    | alone slashless => exact alone slashless
    | behind slashless => exact Text.behind_last slashless _

/-! ## The older form -/

/-- The older form of what is inside. -/
def older (inner : List Char) : List Char :=
  "inet[".toList ++ inner ++ [']']

theorem getLast?_older (inner : List Char) : (older inner).getLast? = some ']' :=
  List.getLast?_concat

theorem withoutInet_older (inner : List Char) : withoutInet (older inner) = inner := by
  have form : ("inet[".toList.isPrefixOf (older inner) &&
      (older inner).getLast? == some ']') = true := by
    rw [getLast?_older]
    rfl
  unfold withoutInet
  rw [if_pos form]
  show (inner ++ [']']).dropLast = inner
  exact List.dropLast_concat

theorem withoutInet_of_other {s : List Char} (other : ∀ inner, s ≠ older inner) :
    withoutInet s = s := by
  unfold withoutInet
  refine if_neg fun form => ?_
  rw [Bool.and_eq_true, List.isPrefixOf_iff_prefix, beq_iff_eq] at form
  obtain ⟨⟨rest, rfl⟩, last⟩ := form
  -- The bracket at the end is not the one of `inet[`, so that something follows it.
  cases rest using List.reverseRecOn with
  | nil => simp at last
  | append_singleton inner c =>
    rw [← List.append_assoc, List.getLast?_concat] at last
    cases last
    exact other inner (List.append_assoc ..).symm

/-! ## The address of a text -/

/-- The address that a text without blanks around it gives. -/
inductive Gives : List Char → List Char → Prop
  | older {inner address : List Char} (ends : EndsIn inner address) : Gives (older inner) address
  | plain {s address : List Char} (other : ∀ inner, s ≠ Rest.older inner)
      (ends : EndsIn s address) : Gives s address

/-- The address that a text publishes: it is given by what is left without the blanks around it. -/
def Publishes (text address : List Char) : Prop :=
  ∃ front core back, text = front ++ core ++ back ∧ (∀ c ∈ front, isBlank c = true) ∧
    (∀ c ∈ back, isBlank c = true) ∧ Solid core ∧ Gives core address

theorem gives_iff {s address : List Char} :
    behindSlash (withoutInet s) = address ↔ Gives s address := by
  by_cases form : ∃ inner, s = older inner
  · obtain ⟨inner, rfl⟩ := form
    rw [withoutInet_older, behindSlash_eq_iff]
    refine ⟨.older, fun gives => ?_⟩
    generalize same : older inner = t at gives
    cases gives with
    | @older inner' _ ends =>
      have inside := congrArg withoutInet same
      rw [withoutInet_older, withoutInet_older] at inside
      rwa [inside]
    | plain other => exact absurd same.symm (other inner)
  · have other := not_exists.mp form
    rw [withoutInet_of_other other, behindSlash_eq_iff]
    refine ⟨.plain other, fun gives => ?_⟩
    cases gives with
    | older => exact absurd rfl (other _)
    | plain _ ends => exact ends

theorem publishedAddress_eq_iff {text address : String} :
    publishedAddress text = address ↔ Publishes text.toList address.toList := by
  have letters : publishedAddress text = address ↔
      behindSlash (withoutInet (trim text.toList)) = address.toList := by
    rw [← String.toList_inj, publishedAddress, String.toList_ofList]
  rw [letters, gives_iff]
  constructor
  · intro gives
    obtain ⟨front, back, whole, blankFront, blankBack⟩ := Text.blanks_around_trim text.toList
    exact ⟨front, trim text.toList, back, whole, blankFront, blankBack, Text.solid_trim _, gives⟩
  · rintro ⟨front, core, back, whole, blankFront, blankBack, solid, gives⟩
    rwa [Text.trim_eq_iff.mpr ⟨solid, front, back, whole, blankFront, blankBack⟩]

theorem Publishes.slashless {text address : List Char} (publishes : Publishes text address) :
    '/' ∉ address := by
  obtain ⟨-, core, -, -, -, -, -, gives⟩ := publishes
  cases gives with
  | older ends => exact ends.slashless
  | plain _ ends => exact ends.slashless

theorem slash_not_mem_publishedAddress (text : String) :
    '/' ∉ (publishedAddress text).toList :=
  (publishedAddress_eq_iff.mp rfl).slashless

/-- No blanks around a text make a difference. -/
theorem publishedAddress_between {front text back : String}
    (blankFront : ∀ c ∈ front.toList, isBlank c = true)
    (blankBack : ∀ c ∈ back.toList, isBlank c = true) :
    publishedAddress (front ++ text ++ back) = publishedAddress text := by
  unfold publishedAddress
  rw [String.toList_append, String.toList_append, Text.trim_between blankFront blankBack]

/-! ## Spellings -/

section Spellings

variable {address : String} (slashless : '/' ∉ address.toList)
include slashless

/-- In the older form nothing else is asked of the address. -/
theorem publishedAddress_older (host : String) :
    publishedAddress ("inet[" ++ host ++ "/" ++ address ++ "]") = address := by
  have form : ("inet[" ++ host ++ "/" ++ address ++ "]").toList =
      older (host.toList ++ '/' :: address.toList) := by
    simp [older]
  rw [publishedAddress_eq_iff, form]
  refine ⟨[], older (host.toList ++ '/' :: address.toList), [], by simp, nofun, nofun,
    ⟨fun c first => ?_, fun c last => ?_⟩, .older (.behind slashless)⟩
  · cases first
    rfl
  · rw [getLast?_older] at last
    cases last
    rfl

variable (solid : Solid address.toList) (unbracketed : address.toList.getLast? ≠ some ']')
include solid unbracketed

theorem publishedAddress_alone : publishedAddress address = address := by
  refine publishedAddress_eq_iff.mpr
    ⟨[], address.toList, [], by simp, nofun, nofun, solid, .plain ?_ (.alone slashless)⟩
  intro inner form
  exact unbracketed (by rw [form, getLast?_older])

/-- Blanks at the front of the host name are dropped with it. -/
theorem publishedAddress_behind (host : String) :
    publishedAddress (host ++ "/" ++ address) = address := by
  obtain ⟨first, blanks, whole, blank⟩ :=
    (Text.dropWhile_eq_iff (p := isBlank) (s := host.toList)).mp rfl
  generalize host.toList.dropWhile isBlank = name at first whole
  have last : ∀ c ∈ (name ++ '/' :: address.toList).getLast?,
      c = '/' ∨ c ∈ address.toList.getLast? := by
    intro c ends
    rw [List.getLast?_append_cons, List.getLast?_cons] at ends
    cases own : address.toList.getLast? with
    | none =>
      rw [own] at ends
      cases ends
      exact .inl rfl
    | some d =>
      rw [own] at ends
      exact .inr ends
  refine publishedAddress_eq_iff.mpr
    ⟨blanks, name ++ '/' :: address.toList, [], ?_, blank, nofun, ⟨?_, ?_⟩, ?_⟩
  · simp [whole]
  · cases name with
    | nil => simp [isBlank]
    | cons c rest => simpa using first
  · intro c ends
    rcases last c ends with rfl | own
    · rfl
    · exact solid.2 c own
  · refine .plain (fun inner form => ?_) (.behind slashless)
    have bracket : ']' ∈ (name ++ '/' :: address.toList).getLast? := by
      rw [form]
      exact getLast?_older inner
    rcases last ']' bracket with slash | own
    · cases slash
    · exact unbracketed own

end Spellings

/-! ## What is published -/

theorem PublishedAs.slashless {description : Json.Members} {address : String}
    (published : PublishedAs description address) : '/' ∉ address.toList := by
  obtain ⟨http, given, -, -, -, rfl⟩ := published
  exact slash_not_mem_publishedAddress given.text

/-- No address that is told for a role has a slash. -/
theorem slashless_of_told {descriptions : Json.Members} {told : Role → List String}
    (listed : ListedByRole descriptions told) {role : Role} {address : String}
    (present : address ∈ told role) : '/' ∉ address.toList := by
  obtain ⟨key, description, -, published, -⟩ := (listed.mem_iff role address).mp present
  exact published.slashless

/-- An address without a slash is what is published by the older form of it, with any host name, and
if it has no blanks around it and does not end with a bracket, also by itself and behind any host
name. Blanks around what is published make no difference. Whatever is published is reduced to a text
without a slash, namely to the one that its spelling tells. -/
theorem address_published :
    (∀ host address : String, '/' ∉ address.toList →
      publishedAddress ("inet[" ++ host ++ "/" ++ address ++ "]") = address ∧
      (Solid address.toList → address.toList.getLast? ≠ some ']' →
        publishedAddress (host ++ "/" ++ address) = address ∧
        publishedAddress address = address)) ∧
    (∀ front text back : String, (∀ c ∈ front.toList, isBlank c = true) →
      (∀ c ∈ back.toList, isBlank c = true) →
      publishedAddress (front ++ text ++ back) = publishedAddress text) ∧
    ∀ text : String, '/' ∉ (publishedAddress text).toList ∧
      ∀ address : String, publishedAddress text = address ↔
        Publishes text.toList address.toList := by
  refine ⟨fun host address slashless => ⟨publishedAddress_older slashless host, ?_⟩,
    fun _ _ _ => publishedAddress_between,
    fun text => ⟨slash_not_mem_publishedAddress text, fun _ => publishedAddress_eq_iff⟩⟩
  intro solid unbracketed
  exact ⟨publishedAddress_behind slashless solid unbracketed host,
    publishedAddress_alone slashless solid unbracketed⟩

/-- The older form may stand in a host name, and brackets in an address. -/
theorem address_behind_older_host :
    let host := "\tinet[a]/b"
    let address := "[::1]:9200"
    '/' ∉ address.toList ∧ Solid address.toList ∧ address.toList.getLast? ≠ some ']' ∧
      publishedAddress ("inet[" ++ host ++ "/" ++ address ++ "]") = address ∧
      publishedAddress (host ++ "/" ++ address) = address ∧ publishedAddress address = address ∧
      (∀ c ∈ " ".toList, isBlank c = true) ∧ (∀ c ∈ "\n".toList, isBlank c = true) ∧
      publishedAddress (" " ++ address ++ "\n") = address := by
  intro host address
  have slashless : '/' ∉ address.toList := by decide
  have solid : Solid address.toList := by decide
  have unbracketed : address.toList.getLast? ≠ some ']' := by decide
  obtain ⟨inside, others⟩ := address_published.1 host address slashless
  obtain ⟨behind, alone⟩ := others solid unbracketed
  have blank : ∀ c ∈ " ".toList, isBlank c = true := List.forall_mem_singleton.mpr rfl
  have blank' : ∀ c ∈ "\n".toList, isBlank c = true := List.forall_mem_singleton.mpr rfl
  have between := address_published.2.1 " " address "\n" blank blank'
  exact ⟨slashless, solid, unbracketed, inside, behind, alone, blank, blank',
    between.trans alone⟩

end Clearance.Rest
