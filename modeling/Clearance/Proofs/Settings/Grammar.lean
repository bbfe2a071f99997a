import Clearance.Proofs.Settings.Address
import Clearance.Proofs.Text.Trim

/-!
# The grammar of declared nodes

What is left of a declared node without blanks, scheme and slashes is a name or something in
brackets, with or without a port. A name has no colon but the one before its port, and brackets end
at the first closing one. A port is decimal digits that stand for a number from 1 to 65535. Nothing
else is an address.

Results:
1. `peeled_iff`: what is left of a declared node, told without dropping anything.
2. `Carries`, `Carries.split`, `split_eq_error`: the four forms, and that they are split as they are
   written.
3. `IsPort`, `checkPort_eq_ok`: the ports that pass.
4. `qualify_eq_ok`: the addresses that come of a declared node.
5. `declared_grammar`: the grammar, with the nodes that are refused.
-/

namespace Clearance.Settings.Address

open Text (isBlank isDecimal isDigit Solid span_at span_none trim)

/-! ## What is left of a node -/

/-- What follows the scheme of a text, or the whole text if it has none. -/
inductive BehindScheme : List Char → List Char → Prop
  | dropped {scheme rest : List Char} (known : scheme.map Char.toLower ∈ schemes) :
      BehindScheme (scheme ++ rest) rest
  | plain {s : List Char} (none : ∀ known ∈ schemes, ¬ known <+: s.map Char.toLower) :
      BehindScheme s s

/-- `a` is left of the node: the blanks around the node are dropped first, then one scheme, then the
slashes at the end. -/
def Peeled (node a : List Char) : Prop :=
  ∃ front core slashes back, node = front ++ core ++ back ∧ (∀ c ∈ front, isBlank c = true) ∧
    (∀ c ∈ back, isBlank c = true) ∧ Solid core ∧ BehindScheme core (a ++ slashes) ∧
    (∀ c ∈ slashes, c = '/') ∧ a.getLast? ≠ some '/'

/-- At most one scheme is at the front of a text. -/
theorem schemes_apart {first second s : List Char} (known : first ∈ schemes)
    (known' : second ∈ schemes) (front : first <+: s) (front' : second <+: s) : first = second := by
  have apart : ∀ a ∈ schemes, ∀ b ∈ schemes, a <+: b → a = b := by decide
  rcases List.prefix_or_prefix_of_prefix front front' with shorter | longer
  · exact apart first known second known' shorter
  · exact (apart second known' first known longer).symm

theorem dropScheme_eq_iff {s t : List Char} : dropScheme s = t ↔ BehindScheme s t := by
  unfold dropScheme
  constructor
  · rintro rfl
    split
    · next known found =>
      have front : known <+: s.map Char.toLower := by simpa using List.find?_some found
      have own : (s.take known.length).map Char.toLower = known := by
        rw [List.map_take, ← List.prefix_iff_eq_take.mp front]
      have behind : BehindScheme (s.take known.length ++ s.drop known.length)
          (s.drop known.length) :=
        .dropped (by rw [own]; exact List.mem_of_find?_eq_some found)
      rwa [List.take_append_drop] at behind
    · next none =>
      refine .plain fun known present front => ?_
      exact absurd (List.isPrefixOf_iff_prefix.mpr front) (List.find?_eq_none.mp none known present)
  · intro behind
    cases behind with
    | @dropped scheme _ known =>
      have front : scheme.map Char.toLower <+: (scheme ++ t).map Char.toLower := by
        rw [List.map_append]
        exact List.prefix_append _ _
      split
      · next other found =>
        have front' : other <+: (scheme ++ t).map Char.toLower := by
          simpa using List.find?_some found
        have same := schemes_apart known (List.mem_of_find?_eq_some found) front front'
        rw [← same, List.length_map, List.drop_left]
      · next none =>
        exact absurd (List.isPrefixOf_iff_prefix.mpr front) (List.find?_eq_none.mp none _ known)
    | plain none =>
      split
      · next known found =>
        exact absurd (by simpa using List.find?_some found)
          (none known (List.mem_of_find?_eq_some found))
      · rfl

theorem peeled_iff {node a : List Char} : Peeled node a ↔ a = bare node := by
  have dropped {s : List Char} : dropSlashes s = a ↔
      a.getLast? ≠ some '/' ∧ ∃ slashes, s = a ++ slashes ∧ ∀ c ∈ slashes, c = '/' := by
    change s.rdropWhile (· == '/') = a ↔ _
    rw [Text.rdropWhile_eq_iff]
    cases a.getLast? <;> simp
  rw [bare, eq_comm, dropped]
  constructor
  · rintro ⟨front, core, slashes, back, rfl, blankFront, blankBack, solid, behind, all, last⟩
    have trimmed : trim (front ++ core ++ back) = core :=
      Text.trim_eq_iff.mpr ⟨solid, front, back, rfl, blankFront, blankBack⟩
    exact ⟨last, slashes, by rw [trimmed, dropScheme_eq_iff.mpr behind], all⟩
  · rintro ⟨last, slashes, rest, all⟩
    obtain ⟨front, back, whole, blankFront, blankBack⟩ := Text.blanks_around_trim node
    exact ⟨front, trim node, slashes, back, whole, blankFront, blankBack, Text.solid_trim node,
      dropScheme_eq_iff.mp rest, all, last⟩

/-! ## Forms -/

/-- The four forms of an address, with the text of the port that it carries. -/
inductive Carries : List Char → Option (List Char) → Prop
  | name {host : List Char} (unbracketed : host.head? ≠ some '[') (portless : ':' ∉ host) :
      Carries host none
  | namePort {host port : List Char} (unbracketed : host.head? ≠ some '[') (portless : ':' ∉ host)
      (last : ':' ∉ port) : Carries (host ++ ':' :: port) (some port)
  | bracketed {inner : List Char} (unclosed : ']' ∉ inner) : Carries ('[' :: inner ++ [']']) none
  | bracketedPort {inner port : List Char} (unclosed : ']' ∉ inner) :
      Carries ('[' :: inner ++ ']' :: ':' :: port) (some port)

/-- The text of an address. -/
def Parts.text : Parts → List Char
  | ⟨host, none⟩ => host
  | ⟨host, some port⟩ => host ++ ':' :: port

theorem split_of_unbracketed (node : String) {s : List Char} (unbracketed : s.head? ≠ some '[') :
    split node s = splitPlain node s := by
  unfold split
  split
  · exact absurd rfl unbracketed
  · rfl

theorem head?_append_colon {host : List Char} (unbracketed : host.head? ≠ some '[')
    (rest : List Char) : (host ++ ':' :: rest).head? ≠ some '[' := by
  cases host with
  | nil => simp
  | cons c more => simpa using unbracketed

/-- An address is split as it is written. -/
theorem Carries.split {s : List Char} {port : Option (List Char)} (carries : Carries s port)
    (node : String) :
    ∃ host, Address.split node s = .ok ⟨host, port⟩ ∧ Parts.text ⟨host, port⟩ = s := by
  cases carries with
  | name unbracketed portless =>
    obtain ⟨taken, dropped⟩ := span_none portless
    have single : ¬ 1 < s.count ':' := by simp [List.count_eq_zero.mpr portless]
    refine ⟨s, ?_, rfl⟩
    rw [split_of_unbracketed node unbracketed, splitPlain, if_neg single]
    simp only [taken, dropped]
  | @namePort host port unbracketed portless last =>
    obtain ⟨taken, dropped⟩ := span_at portless port
    have single : ¬ 1 < (host ++ ':' :: port).count ':' := by
      simp [List.count_eq_zero.mpr portless, List.count_eq_zero.mpr last]
    refine ⟨host, ?_, rfl⟩
    rw [split_of_unbracketed node (head?_append_colon unbracketed port), splitPlain, if_neg single]
    simp only [taken, dropped]
  | @bracketed inner unclosed =>
    have fresh : ']' ∉ '[' :: inner := by simp [unclosed]
    obtain ⟨taken, dropped⟩ := span_at fresh []
    refine ⟨'[' :: inner ++ [']'], ?_, rfl⟩
    change splitBracketed node ('[' :: inner ++ [']']) = _
    simp only [splitBracketed, taken, dropped]
  | @bracketedPort inner port unclosed =>
    have fresh : ']' ∉ '[' :: inner := by simp [unclosed]
    obtain ⟨taken, dropped⟩ := span_at fresh (':' :: port)
    refine ⟨'[' :: inner ++ [']'], ?_, by simp [Parts.text]⟩
    change splitBracketed node ('[' :: inner ++ ']' :: ':' :: port) = _
    simp only [splitBracketed, taken, dropped]

/-- What has none of the forms cannot be split. -/
theorem split_eq_error {s : List Char} (formless : ∀ port, ¬ Carries s port) (node : String) :
    ∃ fault, Address.split node s = .error fault := by
  by_cases bracket : s.head? = some '['
  · obtain ⟨inner, rfl⟩ : ∃ inner, s = '[' :: inner := ⟨s.tail, by cases s <;> simp_all⟩
    change ∃ fault, splitBracketed node ('[' :: inner) = .error fault
    by_cases closed : ']' ∈ inner
    · obtain ⟨own, rest, rfl, unclosed⟩ := List.eq_append_cons_of_mem closed
      have fresh : ']' ∉ '[' :: own := by simp [unclosed]
      obtain ⟨-, dropped⟩ := span_at fresh rest
      rw [List.cons_append] at dropped
      simp only [splitBracketed, dropped]
      split
      · next same =>
        cases same
        exact absurd (.bracketed unclosed) (formless none)
      · next port same =>
        cases same
        exact absurd (.bracketedPort unclosed) (formless (some port))
      · exact ⟨_, rfl⟩
    · have fresh : ']' ∉ '[' :: inner := by simp [closed]
      simp only [splitBracketed, (span_none fresh).2]
      exact ⟨_, rfl⟩
  · rw [split_of_unbracketed node bracket]
    by_cases colon : ':' ∈ s
    · obtain ⟨host, port, rfl, portless⟩ := List.eq_append_cons_of_mem colon
      have unbracketed : host.head? ≠ some '[' := by
        cases host with
        | nil => simp
        | cons c more => simpa using bracket
      have further : ':' ∈ port := by
        by_contra last
        exact formless (some port) (.namePort unbracketed portless last)
      have several : 1 < (host ++ ':' :: port).count ':' := by
        have := List.count_pos_iff.mpr further
        simp
        omega
      exact ⟨_, by rw [splitPlain, if_pos several]⟩
    · exact absurd (.name bracket colon) (formless none)

/-- An address has one form, with one port. -/
theorem Carries.unique {s : List Char} {port other : Option (List Char)} (carries : Carries s port)
    (carries' : Carries s other) : port = other := by
  obtain ⟨host, same, -⟩ := carries.split ""
  obtain ⟨host', same', -⟩ := carries'.split ""
  rw [same] at same'
  cases same'
  rfl

/-- The port that an address carries is behind a colon at its end. -/
theorem Carries.last_colon {s port : List Char} (carries : Carries s (some port)) :
    ∃ front, s = front ++ ':' :: port := by
  cases carries with
  | @namePort host port _ _ _ => exact ⟨host, rfl⟩
  | @bracketedPort inner port _ => exact ⟨'[' :: inner ++ [']'], by simp⟩

/-! ## Ports -/

/-- A port that a node can be reached on. -/
structure IsPort (port : List Char) : Prop where
  nonempty : port ≠ []
  readable : Numeral.Readable port
  inRange : 1 ≤ Numeral.ofDigits port ∧ Numeral.ofDigits port ≤ 65535

theorem checkPort_eq_ok {node : String} {port : List Char} :
    checkPort node port = .ok () ↔ IsPort port := by
  by_cases digits : port ≠ [] ∧ ∀ c ∈ port, isDigit c = true
  · obtain ⟨number, flaw⟩ := checkPort_of_digits node digits.1 digits.2
    by_cases readable : Numeral.Readable port
    · rw [number readable]
      constructor
      · intro checked
        split at checked
        · next range => exact ⟨digits.1, readable, by omega⟩
        · cases checked
      · rintro ⟨-, -, low, high⟩
        rw [if_pos (by omega)]
    · rw [flaw readable]
      exact ⟨nofun, fun own => absurd own.readable readable⟩
  · rw [checkPort_of_other digits]
    refine ⟨nofun, fun own => absurd ⟨own.nonempty, fun c present => ?_⟩ digits⟩
    exact Text.isDigit_of_isDecimal (own.readable.1 c present)

/-! ## Addresses -/

/-- A node without a port takes the default one. -/
theorem qualify_of_portless {node : String} (portless : Carries (bare node.toList) none)
    (defaultPort : Int) :
    qualify node defaultPort =
      .ok (String.ofList (bare node.toList) ++ ":" ++ toString defaultPort) := by
  obtain ⟨host, parts, same⟩ := portless.split node
  rw [qualify, parts, ← same]
  rfl

/-- A node with a port is kept as it is, if the port passes. -/
theorem qualify_of_port {node : String} {port : List Char}
    (carries : Carries (bare node.toList) (some port)) (defaultPort : Int) :
    qualify node defaultPort =
      match checkPort node port with
      | .error fault => .error fault
      | .ok () => .ok (String.ofList (bare node.toList)) := by
  obtain ⟨host, parts, same⟩ := carries.split node
  rw [qualify, parts, ← same]
  rfl

/-- The address that comes of a declared node: what is left of the node, and the default port behind
it if it has none of its own. -/
def Yields (node : String) (defaultPort : Int) (address : String) : Prop :=
  (Carries (bare node.toList) none ∧
      address = String.ofList (bare node.toList) ++ ":" ++ toString defaultPort) ∨
    ∃ port, Carries (bare node.toList) (some port) ∧ IsPort port ∧
      address = String.ofList (bare node.toList)

theorem qualify_eq_ok {node : String} {defaultPort : Int} {address : String} :
    qualify node defaultPort = .ok address ↔ Yields node defaultPort address := by
  constructor
  · intro qualified
    by_cases form : ∃ port, Carries (bare node.toList) port
    · obtain ⟨_ | port, carries⟩ := form
      · rw [qualify_of_portless carries] at qualified
        exact .inl ⟨carries, (Except.ok.inj qualified).symm⟩
      · rw [qualify_of_port carries] at qualified
        cases checked : checkPort node port with
        | error fault =>
          rw [checked] at qualified
          cases qualified
        | ok u =>
          rw [checked] at qualified
          exact .inr ⟨port, carries, checkPort_eq_ok.mp checked, (Except.ok.inj qualified).symm⟩
    · obtain ⟨fault, refused⟩ := split_eq_error (not_exists.mp form) node
      rw [qualify, refused] at qualified
      cases qualified
  · rintro (⟨portless, rfl⟩ | ⟨port, carries, own, rfl⟩)
    · exact qualify_of_portless portless defaultPort
    · rw [qualify_of_port carries, checkPort_eq_ok.mpr own]

/-- A declared node is an address exactly in the four forms, a port being decimal digits that stand
for a number from 1 to 65535. It is kept as it is if it carries a port, and takes the default one
otherwise. What has another form, or another port, is refused. -/
theorem declared_grammar (node : String) (defaultPort : Int) :
    (∀ a, Peeled node.toList a ↔ a = bare node.toList) ∧
    (∀ address, qualify node defaultPort = .ok address ↔ Yields node defaultPort address) ∧
    ((∃ fault, qualify node defaultPort = .error fault) ↔
      ¬ Carries (bare node.toList) none ∧
        ∀ port, Carries (bare node.toList) (some port) → ¬ IsPort port) := by
  refine ⟨fun a => peeled_iff, fun address => qualify_eq_ok, ?_⟩
  have decided : (∃ fault, qualify node defaultPort = .error fault) ↔
      ∀ address, qualify node defaultPort ≠ .ok address := by
    cases qualify node defaultPort <;> simp
  rw [decided]
  constructor
  · intro none
    refine ⟨fun portless => none _ (qualify_of_portless portless defaultPort), ?_⟩
    intro port carries own
    exact none _ (qualify_eq_ok.mpr (.inr ⟨port, carries, own, rfl⟩))
  · rintro ⟨notPortless, noPort⟩ address qualified
    rcases qualify_eq_ok.mp qualified with ⟨portless, -⟩ | ⟨port, carries, own, -⟩
    · exact notPortless portless
    · exact noPort port carries own

end Clearance.Settings.Address
