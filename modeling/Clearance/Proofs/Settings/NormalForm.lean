import Clearance.Proofs.FirstOccurrence
import Clearance.Proofs.Settings.Grammar

/-!
# Declared nodes and their own addresses

The address that comes of a declared node is declared again. It comes to itself, unless a blank
follows the scheme of the node: blanks are dropped before the scheme is, so that this one is left at
the front of the address and dropped from it the next time.

Results:
1. `Complete`, `complete_of_yields`: an address with a usable port comes of every node, if the
   default port is one.
2. `Complete.bare_eq`, `again_iff`: only blanks at its front are dropped from such an address.
3. `again_same`: the address of a node is declared as itself just if no blank follows the scheme of
   the node.
-/

namespace Clearance.Settings

open Text (isBlank isDecimal Solid trim)

namespace Address

/-! ## Complete addresses -/

/-- The text is an address with a port that a node can be reached on. -/
def Complete (s : List Char) : Prop :=
  ∃ port, Carries s (some port) ∧ IsPort port

theorem IsPort.not_mem {port : List Char} (own : IsPort port) {c : Char}
    (other : isDecimal c = false) : c ∉ port := by
  intro present
  rw [own.readable.1 c present] at other
  cases other

theorem isPort_toDigits {n : Nat} (low : 1 ≤ n) (high : n ≤ 65535) :
    IsPort (Nat.toDigits 10 n) where
  nonempty := Nat.toDigits_ne_nil
  readable := by
    refine ⟨fun _ => Numeral.isDecimal_of_mem_toDigits, ?_⟩
    have short : (Nat.toDigits 10 n).length ≤ 5 :=
      (Nat.length_toDigits_le_iff (by decide) (by decide)).mpr (by omega)
    exact short.trans (by decide)
  inRange := by
    rw [Numeral.ofDigits_toDigits]
    exact ⟨low, high⟩

theorem Carries.withPort {a port : List Char} (portless : Carries a none) (last : ':' ∉ port) :
    Carries (a ++ ':' :: port) (some port) := by
  cases portless with
  | name unbracketed fresh => exact .namePort unbracketed fresh last
  | @bracketed inner unclosed =>
    have form : Carries ('[' :: inner ++ ']' :: ':' :: port) (some port) := .bracketedPort unclosed
    simpa using form

/-- A number that is written out is a port if it is in range. -/
theorem isPort_toString {port : Int} :
    IsPort (toString port).toList ↔ 1 ≤ port ∧ port ≤ 65535 := by
  cases port with
  | ofNat n =>
    change IsPort (toString (n : Int)).toList ↔ 1 ≤ (n : Int) ∧ (n : Int) ≤ 65535
    rw [Numeral.toList_toString_ofNat]
    constructor
    · rintro ⟨-, -, range⟩
      rw [Numeral.ofDigits_toDigits] at range
      omega
    · rintro ⟨low, high⟩
      exact isPort_toDigits (by omega) (by omega)
  | negSucc n =>
    rw [Numeral.toList_toString_negSucc]
    constructor
    · intro own
      have sign : isDecimal '-' = true := own.readable.1 _ List.mem_cons_self
      cases sign
    · rintro ⟨low, -⟩
      omega

/-- What comes of a node carries a usable port: its own or the default one. -/
theorem complete_of_yields {node address : String} {port : Int} (low : 1 ≤ port)
    (high : port ≤ 65535) (yields : Yields node port address) : Complete address.toList := by
  rcases yields with ⟨portless, rfl⟩ | ⟨own, carries, usable, rfl⟩
  · have usable := isPort_toString.mpr ⟨low, high⟩
    refine ⟨_, ?_, usable⟩
    have form := portless.withPort (usable.not_mem (by decide))
    simpa using form
  · rw [String.toList_ofList]
    exact ⟨own, carries, usable⟩

/-! ## Addresses that are declared again -/

/-- A character whose small letter is none is that one itself. -/
theorem eq_of_toLower {c d : Char} (small : c.toLower = d) (other : d.isLower = false) : c = d := by
  by_cases capital : 'A'.val ≤ c.val ∧ c.val ≤ 'Z'.val
  · exfalso
    have low : 65 ≤ c.val.toNat := capital.1
    have high : c.val.toNat ≤ 90 := capital.2
    have shifted : d.val = c.val + 32 := by
      rw [← small]
      exact congrArg Char.val (dif_pos capital)
    have value : d.val.toNat = c.val.toNat + 32 := by
      rw [shifted, UInt32.toNat_add]
      change (c.val.toNat + 32) % 2 ^ 32 = _
      omega
    have above : 'a'.val ≤ d.val := by
      change 97 ≤ d.val.toNat
      omega
    have below : d.val ≤ 'z'.val := by
      change d.val.toNat ≤ 122
      omega
    have lower : d.isLower = true :=
      Bool.and_eq_true_iff.mpr ⟨decide_eq_true above, decide_eq_true below⟩
    rw [lower] at other
    cases other
  · have same : c.toLower = c := dif_neg capital
    exact same.symm.trans small

namespace Complete

variable {s : List Char} (complete : Complete s)
include complete

theorem last_decimal : ∃ c, s.getLast? = some c ∧ isDecimal c = true := by
  obtain ⟨port, carries, usable⟩ := complete
  obtain ⟨front, rfl⟩ := carries.last_colon
  have present := List.getLast_mem usable.nonempty
  refine ⟨_, ?_, usable.readable.1 _ present⟩
  rw [List.append_cons, List.getLast?_append_of_ne_nil _ usable.nonempty,
    List.getLast?_eq_some_getLast usable.nonempty]

/-- A scheme would have a colon with a slash behind it. -/
theorem no_slash (name : s.head? ≠ some '[') (front rest : List Char) :
    s ≠ front ++ ':' :: '/' :: rest := by
  rintro rfl
  obtain ⟨port, carries, usable⟩ := complete
  generalize same : front ++ ':' :: '/' :: rest = t at carries name
  cases carries with
  | @namePort host port _ portless last =>
    have fresh : '/' ∉ port := usable.not_mem (by decide)
    obtain ⟨-, -, rfl⟩ := (List.append_cons_inj_of_notMem portless last).mp same.symm
    exact fresh List.mem_cons_self
  | bracketedPort => exact name rfl

/-- No scheme is at the front of what is left without blanks. -/
theorem behindScheme : BehindScheme (s.dropWhile isBlank) (s.dropWhile isBlank) := by
  refine .plain fun known present front => ?_
  obtain ⟨name, rfl⟩ : ∃ name, known = 'h' :: name ++ [':', '/', '/'] := by
    simp only [schemes, List.mem_cons, List.not_mem_nil, or_false] at present
    rcases present with rfl | rfl
    · exact ⟨"ttp".toList, rfl⟩
    · exact ⟨"ttps".toList, rfl⟩
  obtain ⟨rest, spelled⟩ := front
  have unbracketed : s.head? ≠ some '[' := by
    intro bracket
    obtain ⟨inner, rfl⟩ : ∃ inner, s = '[' :: inner := List.head?_eq_some_iff.mp bracket
    rw [List.dropWhile_cons_of_neg (by decide)] at spelled
    cases spelled
  rw [List.append_assoc, eq_comm, List.map_eq_append_iff] at spelled
  obtain ⟨host, port, split, -, slashes⟩ := spelled
  obtain ⟨c, more, rfl, colon, slashes⟩ := List.map_eq_cons_iff.mp slashes
  obtain ⟨d, further, rfl, slash, -⟩ := List.map_eq_cons_iff.mp slashes
  cases eq_of_toLower colon (by decide)
  cases eq_of_toLower slash (by decide)
  refine complete.no_slash unbracketed (s.takeWhile isBlank ++ host) further ?_
  rw [List.append_assoc, ← split, List.takeWhile_append_dropWhile]

/-- Only blanks at the front are dropped from a complete address. -/
theorem bare_eq : bare s = s.dropWhile isBlank := by
  obtain ⟨last, found, decimal⟩ := complete.last_decimal
  obtain ⟨first, blanks, whole, blank⟩ := (Text.dropWhile_eq_iff (p := isBlank) (s := s)).mp rfl
  have ends : ∀ c ∈ (s.dropWhile isBlank).getLast?, c = last := by
    intro c present
    rw [whole, List.getLast?_append, Option.mem_def.mp present] at found
    exact Option.some.inj found
  have trimmed : trim s = s.dropWhile isBlank := by
    refine Text.trim_eq_iff.mpr ⟨⟨first, fun c present => ?_⟩, blanks, [], ?_, blank, nofun⟩
    · rw [ends c present, Text.isBlank_of_isDecimal decimal]
    · rw [List.append_nil, ← whole]
  have slashless : ∀ c ∈ (s.dropWhile isBlank).getLast?, (c == '/') = false := by
    intro c present
    rw [ends c present, beq_eq_false_iff_ne]
    rintro rfl
    cases decimal
  rw [bare, trimmed, dropScheme_eq_iff.mpr complete.behindScheme]
  exact Text.rdropWhile_eq_iff.mpr ⟨slashless, [], (List.append_nil _).symm, nofun⟩

theorem rest_ne_nil : s.dropWhile isBlank ≠ [] := by
  intro none
  obtain ⟨last, found, decimal⟩ := complete.last_decimal
  have blank := List.dropWhile_eq_nil_iff.mp none last (List.mem_of_getLast? found)
  rw [Text.isBlank_of_isDecimal decimal] at blank
  cases blank

end Complete

/-- A complete address is declared as itself just if no blank is at its front. -/
theorem again_iff {address : String} (complete : Complete address.toList) (port : Int) :
    qualify address port = .ok address ↔ ∀ c ∈ address.toList.head?, isBlank c = false := by
  rw [qualify_eq_ok, Yields, complete.bare_eq]
  constructor
  · intro yields
    have first := (Text.dropWhile_eq_iff (p := isBlank) (s := address.toList)).mp rfl |>.1
    -- What is left of the address is at its front, so that they start alike.
    obtain ⟨more, whole⟩ : ∃ more, address.toList = address.toList.dropWhile isBlank ++ more := by
      rcases yields with ⟨-, own⟩ | ⟨_, -, -, own⟩
      · exact ⟨':' :: (toString port).toList, (congrArg String.toList own).trans (by simp)⟩
      · exact ⟨[], (congrArg String.toList own).trans (by simp)⟩
    rw [whole, List.head?_append_of_ne_nil _ complete.rest_ne_nil]
    exact first
  · intro solid
    have kept : address.toList.dropWhile isBlank = address.toList :=
      Text.dropWhile_eq_iff.mpr ⟨solid, [], rfl, nofun⟩
    obtain ⟨own, carries, usable⟩ := complete
    rw [kept]
    exact .inr ⟨own, carries, usable, String.ofList_toList.symm⟩

/-! ## Nodes with a blank behind their scheme -/

/-- A blank follows the scheme of the node. -/
def BlankBehindScheme (node : List Char) : Prop :=
  ∃ scheme c rest, trim node = scheme ++ c :: rest ∧ scheme.map Char.toLower ∈ schemes ∧
    isBlank c = true

/-- No other blank comes to the front of what is left of a node. -/
theorem blankBehindScheme_iff {node : List Char} :
    BlankBehindScheme node ↔ ∃ c ∈ (bare node).head?, isBlank c = true := by
  obtain ⟨front, core, slashes, back, whole, blankFront, blankBack, solid, behind, all, -⟩ :=
    peeled_iff.mpr (rfl : bare node = bare node)
  have trimmed : trim node = core :=
    Text.trim_eq_iff.mpr ⟨solid, front, back, whole, blankFront, blankBack⟩
  rw [BlankBehindScheme, trimmed]
  constructor
  · rintro ⟨scheme, c, rest, rfl, known, blank⟩
    have same : bare node ++ slashes = c :: rest :=
      (dropScheme_eq_iff.mpr behind).symm.trans (dropScheme_eq_iff.mpr (.dropped known))
    cases left : bare node with
    | nil =>
      rw [left] at same
      have present : c ∈ slashes := by
        rw [← List.nil_append slashes, same]
        exact List.mem_cons_self
      have slash := all c present
      rw [slash] at blank
      cases blank
    | cons d more =>
      rw [left] at same
      cases same
      exact ⟨c, rfl, blank⟩
  · rintro ⟨c, first, blank⟩
    obtain ⟨more, left⟩ := List.head?_eq_some_iff.mp first
    generalize same : bare node ++ slashes = rest at behind
    cases behind with
    | @dropped scheme _ known =>
      exact ⟨scheme, c, more ++ slashes, by rw [← same, left]; rfl, known, blank⟩
    | plain none =>
      have outer := solid.1 c (by rw [← same, left]; rfl)
      rw [outer] at blank
      cases blank

/-- The address that comes of a node starts as what is left of it. -/
theorem head?_of_yields {node address : String} {port : Int} (yields : Yields node port address) :
    (∀ c ∈ address.toList.head?, isBlank c = false) ↔ ¬ BlankBehindScheme node.toList := by
  have starts : (∀ c ∈ address.toList.head?, isBlank c = false) ↔
      ∀ c ∈ (bare node.toList).head?, isBlank c = false := by
    rcases yields with ⟨-, rfl⟩ | ⟨_, -, -, rfl⟩
    · cases bare node.toList with
      | nil => simp [isBlank]
      | cons c rest => simp
    · rw [String.toList_ofList]
  rw [starts, blankBehindScheme_iff]
  simp

end Address

/-- The address that comes of a declared node, the default port being one, is declared as itself
just if no blank follows the scheme of the node, whatever the default port is then. In the same case
the node and its address are one declared node. -/
theorem again_same {node address : String} {port : Int} (low : 1 ≤ port) (high : port ≤ 65535)
    (qualified : Address.qualify node port = .ok address) :
    (∀ other, Address.qualify address other = .ok address ↔
      ¬ Address.BlankBehindScheme node.toList) ∧
    ∀ s : Settings, s.port = port → s.nodes = [node, address] →
      (s.declaredNodes = .ok [address] ↔ ¬ Address.BlankBehindScheme node.toList) := by
  have yields := Address.qualify_eq_ok.mp qualified
  have same (other : Int) : Address.qualify address other = .ok address ↔
      ¬ Address.BlankBehindScheme node.toList :=
    (Address.again_iff (Address.complete_of_yields low high yields) other).trans
      (Address.head?_of_yields yields)
  refine ⟨same, ?_⟩
  rintro s rfl nodes
  rw [← same s.port, declaredNodes, nodes, List.mapM_cons, qualified, List.mapM_cons]
  cases Address.qualify address s.port with
  | error fault => exact ⟨nofun, nofun⟩
  | ok again =>
    change Except.ok [address, again].eraseDups = Except.ok [address] ↔
      Except.ok again = Except.ok address
    by_cases own : again = address <;> simp [List.eraseDups_cons, own]

/-- Scheme, slash and default port make no difference the second time. -/
theorem bracketed_again :
    (1 : Int) ≤ 9200 ∧ (9200 : Int) ≤ 65535 ∧
      Address.qualify " HTTPS://[::1]/" 9200 = .ok "[::1]:9200" ∧
      Address.qualify "[::1]:9200" 80 = .ok "[::1]:9200" := by
  have qualified : Address.qualify " HTTPS://[::1]/" 9200 = .ok "[::1]:9200" := by decide +kernel
  have solid : ¬ Address.BlankBehindScheme " HTTPS://[::1]/".toList := by
    rw [Address.blankBehindScheme_iff]
    rintro ⟨c, first, blank⟩
    have bracket : (Address.bare " HTTPS://[::1]/".toList).head? = some '[' := by decide +kernel
    cases bracket.symm.trans first
    cases blank
  exact ⟨by decide, by decide, qualified,
    ((again_same (by decide) (by decide) qualified).1 80).mpr solid⟩

/-- A blank behind the scheme is left at the front of the address, which is another one when it is
declared again. -/
theorem blank_behind_scheme_stays :
    let s : Settings := { nodes := ["http:// x", " x:9200"] }
    Address.qualify "http:// x" 9200 = .ok " x:9200" ∧
      Address.qualify " x:9200" 9200 = .ok "x:9200" ∧
      s.declaredNodes = .ok [" x:9200", "x:9200"] :=
  ⟨by decide +kernel, by decide +kernel, by decide +kernel⟩

end Clearance.Settings
