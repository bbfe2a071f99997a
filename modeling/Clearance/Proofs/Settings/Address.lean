import Clearance.Fault.Message
import Clearance.Negotiation.Basic
import Clearance.Proofs.Numeral
import Clearance.Proofs.Outcome

/-!
# Declared nodes that are refused

A declared node that has no address is refused with a fault of the configuration, whose words name
the setting for the nodes. There is one gap: a port of digits passes for a number before it is read
as one, and where it cannot be read the fault is that of reading numbers.

Results:
1. `checkPort_of_digits`, `checkPort_of_other`: how the port of a node is checked.
2. `qualify_refused`, `qualify_numeral`: with what faults a node is refused, and which nodes fall
   into the gap.
3. `declared_refusals`: the same for all declared nodes, however they are come by.
-/

namespace Clearance.Settings

open Text (isDigit)

/-- The fault is one of the configuration, and its words name the setting. -/
def Names (setting : Key) (fault : Fault) : Prop :=
  ∃ own before after, fault = .configuration own ∧
    own.message = before ++ "'" ++ setting.name ++ "'" ++ after

namespace Address

/-! ## Words -/

theorem names_of_message {own : ConfigurationFault} (front after : String)
    (said : own.message = front ++ "] in setting '" ++ Key.nodes.name ++ "'" ++ after) :
    Names .nodes (.configuration own) := by
  have opening : "] in setting '" = "] in setting " ++ "'" := by simp
  exact ⟨own, front ++ "] in setting ", after, rfl, by rw [said, opening, ← String.append_assoc]⟩

theorem names_node (node : String) : Names .nodes (.configuration (.text (.node node))) :=
  names_of_message ("Invalid node [" ++ node) "" String.append_empty.symm

theorem names_unbracketed (node : String) :
    Names .nodes (.configuration (.text (.unbracketed node))) := by
  have closing : "'; " = "'" ++ "; " := by simp
  refine names_of_message ("Invalid node [" ++ node)
    ("; " ++ "IPv6 addresses must be enclosed in brackets") ?_
  change "Invalid node [" ++ node ++ "] in setting '" ++ Key.nodes.name ++ "'; " ++
    "IPv6 addresses must be enclosed in brackets" = _
  rw [closing]
  simp only [String.append_assoc]

theorem names_nodePort (port node : String) :
    Names .nodes (.configuration (.text (.nodePort port node))) :=
  names_of_message ("Invalid port [" ++ port ++ "] for node [" ++ node) ""
    String.append_empty.symm

/-! ## Ports -/

/-- A port of digits is read as a number, which must be in range. -/
theorem checkPort_of_digits (node : String) {port : List Char} (nonempty : port ≠ [])
    (digits : ∀ c ∈ port, isDigit c = true) :
    (Numeral.Readable port → checkPort node port =
      if 0 < Numeral.ofDigits port ∧ Numeral.ofDigits port < 65536 then .ok ()
      else .error (.configuration (.text (.nodePort (String.ofList port) node)))) ∧
    (¬ Numeral.Readable port →
      checkPort node port = .error (.value (.numeral (Numeral.flawOf port)))) := by
  have passes : ¬ (port = [] ∨ (!port.all isDigit) = true) := by
    have all : port.all isDigit = true := List.all_eq_true.mpr digits
    simp [nonempty, all]
  obtain ⟨number, flaw⟩ := Numeral.readInt_of_digits digits nonempty
  constructor
  · intro readable
    simp only [checkPort, if_neg passes, number readable]
    congr 1
    exact propext ⟨fun ⟨low, high⟩ => ⟨by omega, by omega⟩, fun ⟨low, high⟩ => ⟨by omega, by omega⟩⟩
  · intro unreadable
    simp only [checkPort, if_neg passes, flaw unreadable]

/-- Any other port is refused before it is read. -/
theorem checkPort_of_other {node : String} {port : List Char}
    (other : ¬ (port ≠ [] ∧ ∀ c ∈ port, isDigit c = true)) :
    checkPort node port =
      .error (.configuration (.text (.nodePort (String.ofList port) node))) := by
  have refused : port = [] ∨ (!port.all isDigit) = true := by
    rw [Bool.not_eq_true', Bool.eq_false_iff, ne_eq, List.all_eq_true]
    exact Classical.or_iff_not_imp_left.mpr fun nonempty all => other ⟨nonempty, all⟩
  simp only [checkPort, if_pos refused]

/-! ## Nodes -/

/-- The node carries a port of digits, and no number can be read from it. -/
def Unreadable (node : String) (flaw : Numeral.Flaw) : Prop :=
  ∃ host port, split node (bare node.toList) = .ok ⟨host, some port⟩ ∧ port ≠ [] ∧
    (∀ c ∈ port, isDigit c = true) ∧ ¬ Numeral.Readable port ∧ flaw = Numeral.flawOf port

theorem split_refused {node : String} {s : List Char} {fault : Fault}
    (refused : split node s = .error fault) : Names .nodes fault := by
  unfold split at refused
  split at refused
  · rw [splitBracketed] at refused
    split at refused
    · cases refused
    · cases refused
    · cases refused
      exact names_node node
  · rw [splitPlain] at refused
    split at refused
    · cases refused
      exact names_unbracketed node
    · dsimp only at refused
      split at refused <;> cases refused

theorem checkPort_refused {node : String} {port : List Char} {fault : Fault}
    (refused : checkPort node port = .error fault) :
    Names .nodes fault ∨
      port ≠ [] ∧ (∀ c ∈ port, isDigit c = true) ∧ ¬ Numeral.Readable port ∧
        fault = .value (.numeral (Numeral.flawOf port)) := by
  by_cases digits : port ≠ [] ∧ ∀ c ∈ port, isDigit c = true
  · obtain ⟨number, flaw⟩ := checkPort_of_digits node digits.1 digits.2
    by_cases readable : Numeral.Readable port
    · rw [number readable] at refused
      split at refused
      · cases refused
      · cases refused
        exact .inl (names_nodePort _ node)
    · rw [flaw readable] at refused
      cases refused
      exact .inr ⟨digits.1, digits.2, readable, rfl⟩
  · rw [checkPort_of_other digits] at refused
    cases refused
    exact .inl (names_nodePort _ node)

theorem qualify_refused {node : String} {defaultPort : Int} {fault : Fault}
    (refused : qualify node defaultPort = .error fault) :
    Names .nodes fault ∨ ∃ flaw, Unreadable node flaw ∧ fault = .value (.numeral flaw) := by
  rw [qualify] at refused
  rcases parts : split node (bare node.toList) with own | ⟨host, _ | port⟩
  · rw [parts] at refused
    cases refused
    exact .inl (split_refused parts)
  · rw [parts] at refused
    cases refused
  · rw [parts] at refused
    dsimp only at refused
    cases checked : checkPort node port with
    | ok u =>
      rw [checked] at refused
      cases refused
    | error own =>
      rw [checked] at refused
      cases refused
      rcases checkPort_refused checked with named | ⟨nonempty, digits, unreadable, rfl⟩
      · exact .inl named
      · exact .inr ⟨_, ⟨host, port, parts, nonempty, digits, unreadable, rfl⟩, rfl⟩

/-- A node falls into the gap just if its port is made of digits and cannot be read. -/
theorem qualify_numeral {node : String} {defaultPort : Int} {flaw : Numeral.Flaw} :
    qualify node defaultPort = .error (.value (.numeral flaw)) ↔ Unreadable node flaw := by
  constructor
  · intro refused
    rcases qualify_refused refused with ⟨own, before, after, same, -⟩ | ⟨own, unreadable, same⟩
    · cases same
    · cases same
      exact unreadable
  · rintro ⟨host, port, parts, nonempty, digits, unreadable, rfl⟩
    have checked := (checkPort_of_digits node nonempty digits).2 unreadable
    simp only [qualify, parts, checked]

end Address

/-! ## All declared nodes -/

/-- The first declared node that is refused carries a port of digits from which no number can be
read. -/
def FirstUnreadable (s : Settings) (flaw : Numeral.Flaw) : Prop :=
  ∃ before node after, s.nodes = before ++ node :: after ∧
    (∀ earlier ∈ before, ∃ address, Address.qualify earlier s.port = .ok address) ∧
    Address.Unreadable node flaw

/-- What comes of the declared nodes: the faults are those of the configuration that name the
setting, except where the first node that is refused falls into the gap, and there always. -/
structure Refusals {α : Type} (s : Settings) (outcome : Except Fault α) : Prop where
  told : ∀ {fault}, outcome = .error fault →
    Names .nodes fault ∨ ∃ flaw, FirstUnreadable s flaw ∧ fault = .value (.numeral flaw)
  numeral : ∀ flaw, outcome = .error (.value (.numeral flaw)) ↔ FirstUnreadable s flaw

theorem Refusals.map {α β : Type} {s : Settings} {outcome : Except Fault α}
    (refusals : Refusals s outcome) (f : α → β) : Refusals s (outcome.map f) where
  told failed := refusals.told (map_eq_error.mp failed)
  numeral flaw := map_eq_error.trans (refusals.numeral flaw)

theorem declaredNodes_refusals (s : Settings) : Refusals s s.declaredNodes := by
  refine Refusals.map ⟨fun failed => ?_, fun flaw => ?_⟩ List.eraseDups
  · obtain ⟨before, node, after, split, fine, refused⟩ := mapM_eq_error.mp failed
    rcases Address.qualify_refused refused with named | ⟨flaw, unreadable, rfl⟩
    · exact .inl named
    · exact .inr ⟨flaw, ⟨before, node, after, split, fine, unreadable⟩, rfl⟩
  · simp only [mapM_eq_error, Address.qualify_numeral]
    rfl

/-- Whoever reads the declared nodes, be it alone, for a roster or for a negotiation, hears of the
same faults: a fault of the configuration that names the setting, unless the first node that is
refused carries a port of digits from which no number can be read. That one is a fault of reading
numbers. -/
theorem declared_refusals (s : Settings) :
    Refusals s s.declaredNodes ∧ Refusals s (Roster.ofSettings s) ∧
      Refusals s (Negotiation.ofSettings s) :=
  ⟨declaredNodes_refusals s, (declaredNodes_refusals s).map _,
    ((declaredNodes_refusals s).map _).map _⟩

/-- A superscript passes for a digit, and no number can be read from it. The fault is none of the
configuration. -/
theorem superscript_port_escapes :
    let s : Settings := { nodes := ["a:²"] }
    let fault := Fault.value (.numeral (.malformed "²"))
    s.declaredNodes = .error fault ∧ Roster.ofSettings s = .error fault ∧
      Negotiation.ofSettings s = .error fault ∧ ¬ Names .nodes fault := by
  refine ⟨by decide +kernel, by decide +kernel, by decide +kernel, ?_⟩
  rintro ⟨own, before, after, same, -⟩
  cases same

end Clearance.Settings
