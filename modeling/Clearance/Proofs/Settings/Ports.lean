import Clearance.Proofs.Settings.NormalForm
import Clearance.Proofs.Settings.Properties

/-!
# Ports of declared addresses

A port comes to an address from the node that it was declared with, or else from the property for
the default port. The one is checked to be in range, the other may be any whole number. So the
declared addresses can all be used if the default port is in range, and otherwise just if it is used
for none of them.

Results:
1. `usable_iff_of_yields`: whether the address of one node can be used.
2. `declaredNodes_usable`: whether the addresses of all declared nodes can be used.
3. `port_of_given`, `portInRange_iff`: what the default port is, by the property for it.
4. `declared_ports`: all of this for settings from properties, with the nodes that are refused.
-/

namespace Clearance.Settings

open Address (Carries IsPort Yields bare)
open Text (Glyph isDecimal)

/-! ## Addresses -/

/-- The address ends in a colon and a port behind it that is a decimal number from 1 to 65535. -/
def Usable (address : String) : Prop :=
  ∃ host port, address.toList = host ++ ':' :: port ∧ IsPort port

/-- The node is written with a port. -/
def HasPort (node : String) : Prop :=
  ∃ port, Carries (bare node.toList) (some port)

theorem colon_not_mem_toString (port : Int) : ':' ∉ (toString port).toList := by
  have digits (n : Nat) : ':' ∉ Nat.toDigits 10 n := by
    intro present
    have decimal : isDecimal ':' = true := Numeral.isDecimal_of_mem_toDigits present
    cases decimal
  cases port with
  | ofNat n =>
    change ':' ∉ (toString (n : Int)).toList
    rw [Numeral.toList_toString_ofNat]
    exact digits n
  | negSucc n =>
    rw [Numeral.toList_toString_negSucc]
    exact List.not_mem_cons_of_ne_of_not_mem (by decide) (digits (n + 1))

/-- What is behind the last colon of a text is one text. -/
theorem eq_of_last_colon {front front' port port' : List Char} (last : ':' ∉ port)
    (last' : ':' ∉ port') (same : front ++ ':' :: port = front' ++ ':' :: port') :
    port = port' := by
  rw [← Text.behind_last last front, same, Text.behind_last last']

/-- An address can be used if what is behind its last colon is a port. -/
theorem usable_iff {address : String} {front port : List Char} (last : ':' ∉ port)
    (ends : address.toList = front ++ ':' :: port) : Usable address ↔ IsPort port := by
  constructor
  · rintro ⟨front', port', ends', own⟩
    rw [ends] at ends'
    rwa [eq_of_last_colon last (own.not_mem (by decide)) ends']
  · exact fun own => ⟨front, port, ends, own⟩

/-- The address of a node can be used if the node has a port of its own or the default port is in
range. -/
theorem usable_iff_of_yields {node address : String} {port : Int}
    (yields : Yields node port address) :
    Usable address ↔ HasPort node ∨ 1 ≤ port ∧ port ≤ 65535 := by
  rcases yields with ⟨portless, rfl⟩ | ⟨own, carries, usable, rfl⟩
  · have none : ¬ HasPort node := by
      rintro ⟨own, carries⟩
      cases portless.unique carries
    have ends : (String.ofList (bare node.toList) ++ ":" ++ toString port).toList =
        bare node.toList ++ ':' :: (toString port).toList := by simp
    rw [usable_iff (colon_not_mem_toString port) ends, Address.isPort_toString]
    exact (or_iff_right none).symm
  · obtain ⟨front, ends⟩ := carries.last_colon
    exact ⟨fun _ => .inl ⟨own, carries⟩,
      fun _ => ⟨front, own, String.toList_ofList.trans ends, usable⟩⟩

theorem mem_declaredNodes {s : Settings} {addresses : List String}
    (declared : s.declaredNodes = .ok addresses) {address : String} :
    address ∈ addresses ↔ ∃ node ∈ s.nodes, Yields node s.port address := by
  rw [declaredNodes] at declared
  cases read : s.nodes.mapM (Address.qualify · s.port) with
  | error fault =>
    rw [read] at declared
    cases declared
  | ok all =>
    rw [read] at declared
    cases declared
    simp only [List.mem_eraseDups, mem_of_mapM_ok read, Address.qualify_eq_ok]

/-- An address comes of every declared node. -/
theorem exists_yields {s : Settings} {addresses : List String}
    (declared : s.declaredNodes = .ok addresses) {node : String} (present : node ∈ s.nodes) :
    ∃ address ∈ addresses, Yields node s.port address := by
  have read : ∃ all, s.nodes.mapM (Address.qualify · s.port) = .ok all := by
    rw [declaredNodes] at declared
    cases read : s.nodes.mapM (Address.qualify · s.port) with
    | error fault =>
      rw [read] at declared
      cases declared
    | ok all => exact ⟨all, rfl⟩
  obtain ⟨address, qualified⟩ := exists_mapM_ok.mp read node present
  have yields := Address.qualify_eq_ok.mp qualified
  exact ⟨address, (mem_declaredNodes declared).mpr ⟨node, present, yields⟩, yields⟩

/-- The declared addresses can be used if the default port is in range or used for none of them. -/
theorem declaredNodes_usable {s : Settings} {addresses : List String}
    (declared : s.declaredNodes = .ok addresses) :
    (∀ address ∈ addresses, Usable address) ↔
      (1 ≤ s.port ∧ s.port ≤ 65535) ∨ ∀ node ∈ s.nodes, HasPort node := by
  constructor
  · intro usable
    refine Classical.or_iff_not_imp_left.mpr fun outside node present => ?_
    obtain ⟨address, listed, yields⟩ := exists_yields declared present
    exact ((usable_iff_of_yields yields).mp (usable address listed)).resolve_right outside
  · intro fine address listed
    obtain ⟨node, present, yields⟩ := (mem_declaredNodes declared).mp listed
    rw [usable_iff_of_yields yields]
    exact fine.symm.imp_left fun own => own node present

/-! ## Properties -/

/-- The property for the default port says nothing, or a number from 1 to 65535. -/
def Properties.PortInRange (p : Properties) : Prop :=
  ∀ text, p.Gives .port text →
    ∃ number, Numeral.readInt text.toList = .ok number ∧ 1 ≤ number ∧ number ≤ 65535

theorem readDefaultPort_eq_ok {text : String} {number : Int} :
    readDefaultPort text = .ok number ↔ Numeral.readInt text.toList = .ok number := by
  rw [readDefaultPort]
  cases Numeral.readInt text.toList with
  | error flaw => simp
  | ok other => simp

/-- The default port is the number that its property says, in range or not. -/
theorem port_of_given {p : Properties} {s : Settings} (made : ofProperties p = .ok s)
    {text : String} (given : p.Gives .port text) : Numeral.readInt text.toList = .ok s.port := by
  have read : p.value .port = .ok s.port := Properties.ofProperties_eq_ok.mp made .port
  rw [Properties.value_of_given given] at read
  exact readDefaultPort_eq_ok.mp read

theorem port_of_silent {p : Properties} {s : Settings} (made : ofProperties p = .ok s)
    (nothing : ∀ text, ¬ p.Gives .port text) : s.port = 9200 := by
  have reads := Properties.value_eq_ok.mp (Properties.ofProperties_eq_ok.mp made .port)
  change s.content .port = ({} : Settings).content .port
  generalize s.content .port = port at reads
  cases reads with
  | silent silent => rfl
  | given given read => exact absurd given (nothing _)

theorem portInRange_iff {p : Properties} {s : Settings} (made : ofProperties p = .ok s) :
    p.PortInRange ↔ 1 ≤ s.port ∧ s.port ≤ 65535 := by
  constructor
  · intro fine
    by_cases spoken : ∃ text, p.Gives .port text
    · obtain ⟨text, given⟩ := spoken
      obtain ⟨number, same, range⟩ := fine text given
      cases (port_of_given made given).symm.trans same
      exact range
    · rw [port_of_silent made (not_exists.mp spoken)]
      decide
  · exact fun range text given => ⟨s.port, port_of_given made given, range⟩

/-! ## Declared addresses -/

/-- A node is refused if its own port is not a decimal number in range, and the words name the
setting for the nodes. The one exception is a fault of reading numbers. -/
theorem declaredNodes_of_bad_port {s : Settings} {node : String} (present : node ∈ s.nodes)
    {port : List Char} (carries : Carries (bare node.toList) (some port)) (bad : ¬ IsPort port) :
    ∃ fault, s.declaredNodes = .error fault ∧
      (Names .nodes fault ∨ ∃ flaw, FirstUnreadable s flaw ∧ fault = .value (.numeral flaw)) := by
  cases declared : s.declaredNodes with
  | error fault => exact ⟨fault, rfl, (declaredNodes_refusals s).told declared⟩
  | ok addresses =>
    exfalso
    obtain ⟨address, -, yields⟩ := exists_yields declared present
    rcases yields with ⟨portless, -⟩ | ⟨own, carries', usable, -⟩
    · cases portless.unique carries
    · cases carries'.unique carries
      exact bad usable

/-- Whatever number the property for the default port says is taken. So the addresses that are
declared by properties can all be used just if that number is in range or all nodes have ports of
their own. A node is refused if its own port is not in range. -/
theorem declared_ports {p : Properties} {s : Settings} (made : ofProperties p = .ok s) :
    (∀ text, p.Gives .port text → Numeral.readInt text.toList = .ok s.port) ∧
    (∀ addresses, s.declaredNodes = .ok addresses →
      ((∀ address ∈ addresses, Usable address) ↔
        p.PortInRange ∨ ∀ node ∈ s.nodes, HasPort node)) ∧
    ∀ node ∈ s.nodes, ∀ port, Carries (bare node.toList) (some port) → ¬ IsPort port →
      ∃ fault, s.declaredNodes = .error fault ∧
        (Names .nodes fault ∨
          ∃ flaw, FirstUnreadable s flaw ∧ fault = .value (.numeral flaw)) := by
  refine ⟨fun text given => port_of_given made given, fun addresses declared => ?_,
    fun node present port carries bad => declaredNodes_of_bad_port present carries bad⟩
  rw [portInRange_iff made]
  exact declaredNodes_usable declared

/-- A sign, blanks and underscores make no difference to the default port. -/
theorem grouped_port_usable :
    let p : Properties := [(Glyph.ofString "es.nodes", .string (Glyph.ofString "a:080,[::1]")),
      (Glyph.ofString "es.port", .string (Glyph.ofString " +9_300 "))]
    ∃ s, ofProperties p = .ok s ∧ s.declaredNodes = .ok ["a:080", "[::1]:9300"] ∧
      Usable "a:080" ∧ Usable "[::1]:9300" := by
  intro p
  have inRange : p.PortInRange := by
    intro text given
    have told : p.text? .port = .ok (some " +9_300 ") := by decide +kernel
    cases told.symm.trans (Properties.text?_eq_some.mpr given)
    exact ⟨9300, by decide +kernel, by decide, by decide⟩
  obtain ⟨s, made, declared⟩ :
      ∃ s, ofProperties p = .ok s ∧ s.declaredNodes = .ok ["a:080", "[::1]:9300"] :=
    ⟨_, rfl, by decide +kernel⟩
  have usable := ((declared_ports made).2.1 _ declared).mpr (.inl inRange)
  exact ⟨s, made, declared, usable _ (by simp), usable _ (by simp)⟩

/-- A default port out of range is read, and comes to an address. -/
theorem large_default_port_declared :
    let p : Properties := [(Glyph.ofString "es.port", .string (Glyph.ofString "70000"))]
    ∃ s, ofProperties p = .ok s ∧ s.declaredNodes = .ok ["localhost:70000"] ∧
      ¬ Usable "localhost:70000" := by
  refine ⟨_, rfl, by decide +kernel, ?_⟩
  have ends : "localhost:70000".toList = "localhost".toList ++ ':' :: "70000".toList := by decide
  rw [usable_iff (by decide) ends]
  rintro ⟨-, -, -, high⟩
  exact absurd high (by decide +kernel)

end Clearance.Settings
