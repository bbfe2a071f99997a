import Clearance.Json.Encoding
import Clearance.Json.Shown
import Mathlib.Algebra.Group.Nat.Defs

/-!
# Documents can be shown

What cannot be shown is a whole number of too many digits, and whatever holds one. Such a number is
refused where a document is read. So every value that comes out of a document can be shown.

Results:
1. `Oversized`, `oversized_iff`: the values that cannot be shown.
2. `number_lt`: a number is bounded by the number of its digits.
3. `isShowable_of_read`, `isShowable_of_readBytes`: what is read can be shown.
-/

namespace Clearance.Json

open Clearance.Text (Glyph)

/-! ## Values -/

/-- The value is a whole number of too many digits, or holds one. -/
inductive Oversized : Value → Prop
  | int {n : Int} (long : Nat.pow 10 Numeral.maxDigits ≤ n.natAbs) : Oversized (.int n)
  | item {items : List Value} {v : Value} (present : v ∈ items) (long : Oversized v) :
      Oversized (.array items)
  | member {members : Members} {key : List Glyph} {v : Value} (present : (key, v) ∈ members)
      (long : Oversized v) : Oversized (.object members)

theorem areShowable_iff {items : List Value} :
    areShowable items = true ↔ ∀ v ∈ items, v.isShowable = true := by
  induction items with
  | nil => simp [areShowable]
  | cons v rest ih => simp [areShowable, ih]

theorem haveShowable_iff {members : Members} :
    haveShowable members = true ↔ ∀ member ∈ members, member.2.isShowable = true := by
  induction members with
  | nil => simp [haveShowable]
  | cons member rest ih => simp [haveShowable, ih]

theorem Oversized.not_showable {v : Value} (oversized : Oversized v) : ¬ v.isShowable = true := by
  induction oversized with
  | int long =>
    unfold Value.isShowable
    exact fun short => Nat.not_lt.mpr long (of_decide_eq_true short)
  | item present _ ih =>
    unfold Value.isShowable
    exact fun all => ih (areShowable_iff.mp all _ present)
  | member present _ ih =>
    unfold Value.isShowable
    exact fun all => ih (haveShowable_iff.mp all _ present)

theorem oversized_int {n : Int} (hidden : ¬ (Value.int n).isShowable = true) :
    Oversized (.int n) := by
  unfold Value.isShowable at hidden
  exact .int (Nat.le_of_not_lt fun short => hidden (decide_eq_true short))

mutual

theorem oversized_of_not_showable : ∀ v : Value, ¬ v.isShowable = true → Oversized v
  | .int _ => oversized_int
  | .array items => by
    intro hidden
    unfold Value.isShowable at hidden
    obtain ⟨v, present, long⟩ := oversized_item items hidden
    exact .item present long
  | .object members => by
    intro hidden
    unfold Value.isShowable at hidden
    obtain ⟨key, v, present, long⟩ := oversized_member members hidden
    exact .member present long
  | .null | .bool _ | .float _ | .string _ => fun hidden => absurd rfl hidden

theorem oversized_item : ∀ items : List Value, ¬ areShowable items = true →
    ∃ v ∈ items, Oversized v
  | [] => fun hidden => absurd rfl hidden
  | v :: rest => by
    intro hidden
    by_cases first : v.isShowable = true
    · have later : ¬ areShowable rest = true := fun all =>
        hidden (Bool.and_eq_true_iff.mpr ⟨first, all⟩)
      obtain ⟨w, present, long⟩ := oversized_item rest later
      exact ⟨w, List.mem_cons_of_mem v present, long⟩
    · exact ⟨v, List.mem_cons_self, oversized_of_not_showable v first⟩

theorem oversized_member : ∀ members : List (List Glyph × Value), ¬ haveShowable members = true →
    ∃ key v, (key, v) ∈ members ∧ Oversized v
  | [] => fun hidden => absurd rfl hidden
  | (key, v) :: rest => by
    intro hidden
    by_cases first : v.isShowable = true
    · have later : ¬ haveShowable rest = true := fun all =>
        hidden (Bool.and_eq_true_iff.mpr ⟨first, all⟩)
      obtain ⟨other, w, present, long⟩ := oversized_member rest later
      exact ⟨other, w, List.mem_cons_of_mem _ present, long⟩
    · exact ⟨key, v, List.mem_cons_self, oversized_of_not_showable v first⟩

end

theorem oversized_iff {v : Value} : Oversized v ↔ v.isShowable = false :=
  ⟨fun oversized => Bool.eq_false_iff.mpr oversized.not_showable,
    fun hidden => oversized_of_not_showable v (Bool.eq_false_iff.mp hidden)⟩

theorem not_oversized_iff {v : Value} : ¬ Oversized v ↔ v.isShowable = true := by
  rw [oversized_iff, Bool.not_eq_false]

/-! ## Numbers -/

namespace Reader

theorem digit?_le {g : Glyph} {d : Nat} (read : digit? g = some d) : d ≤ 9 := by
  unfold digit? at read
  split at read
  · next c =>
    split at read
    · next digit =>
      cases read
      have high : c.toNat ≤ 57 := digit.2
      omega
    · cases read
  · cases read

theorem foldl_digits_lt {ds : List Nat} (digits : ∀ d ∈ ds, d ≤ 9) (n : Nat) :
    ds.foldl (fun n d => 10 * n + d) n < (n + 1) * 10 ^ ds.length := by
  induction ds generalizing n with
  | nil => simp
  | cons d rest ih =>
    have small := digits d List.mem_cons_self
    have later := ih (fun e present => digits e (List.mem_cons_of_mem _ present)) (10 * n + d)
    calc
      rest.foldl (fun n d => 10 * n + d) (10 * n + d) <
          (10 * n + d + 1) * 10 ^ rest.length := later
      _ ≤ (10 * (n + 1)) * 10 ^ rest.length := Nat.mul_le_mul_right _ (by omega)
      _ = (n + 1) * 10 ^ (d :: rest).length := by
        rw [List.length_cons, Nat.pow_succ', Nat.mul_comm 10, Nat.mul_assoc]

theorem number_lt {ds : List Nat} (digits : ∀ d ∈ ds, d ≤ 9) : number ds < 10 ^ ds.length := by
  have bound := foldl_digits_lt digits 0
  rw [Nat.zero_add, Nat.one_mul] at bound
  exact bound

theorem mem_digits {s : List Glyph} {d : Nat} (present : d ∈ (digits s).1) : d ≤ 9 := by
  obtain ⟨g, -, read⟩ := List.mem_filterMap.mp present
  exact digit?_le read

theorem mem_whole {s r : List Glyph} {ds : List Nat} (read : whole? s = some (ds, r)) :
    ∀ d ∈ ds, d ≤ 9 := by
  intro d present
  unfold whole? at read
  split at read
  · cases read
  · cases read
    cases List.mem_singleton.mp present
    decide
  · cases read
    exact mem_digits present

/-! ## Values -/

theorem isShowable_of_unsigned {negative : Bool} {s r : List Glyph} {v : Value}
    (read : unsigned? negative s = some (v, r)) : v.isShowable = true := by
  unfold unsigned? at read
  split at read
  · cases read
  · next ds _ whole =>
    dsimp only at read
    split at read
    · split at read
      · cases read
      · next few =>
        cases read
        have bound : number ds < 10 ^ Numeral.maxDigits :=
          Nat.lt_of_lt_of_le (number_lt (mem_whole whole))
            (Nat.pow_le_pow_right (by decide) (Nat.le_of_not_lt few))
        cases negative <;> simp [Value.isShowable, bound]
    · cases read
      rfl

theorem isShowable_of_literal {s r : List Glyph} {v : Value} (read : literal? s = some (v, r)) :
    v.isShowable = true := by
  obtain ⟨⟨name, w⟩, listed, same⟩ := List.exists_of_findSome?_eq_some read
  obtain ⟨rest, -, same⟩ := Option.map_eq_some_iff.mp same
  cases same
  have all : ∀ literal ∈ literals, literal.2.isShowable = true := by
    simp [literals, Value.isShowable]
  exact all _ listed

theorem haveShowable_insert {v : Value} {members : Members} (shown : v.isShowable = true)
    (known : haveShowable members = true) (key : List Glyph) :
    haveShowable (members.insert key v) = true := by
  induction members with
  | nil => simp [Members.insert, haveShowable, shown]
  | cons member rest ih =>
    obtain ⟨own, w⟩ := member
    obtain ⟨first, others⟩ := Bool.and_eq_true_iff.mp known
    rw [Members.insert]
    split
    · exact Bool.and_eq_true_iff.mpr ⟨shown, others⟩
    · exact Bool.and_eq_true_iff.mpr ⟨first, ih others⟩

/-- What is read with some fuel can be shown: a value, items, and members put in after others. -/
structure Showing (fuel : Nat) : Prop where
  value : ∀ {s v r}, value? fuel s = some (v, r) → v.isShowable = true
  items : ∀ {s vs r}, items? fuel s = some (vs, r) → areShowable vs = true
  members : ∀ {known s ms r}, haveShowable known = true →
    members? fuel known s = some (ms, r) → haveShowable ms = true

variable {fuel : Nat} {s r : List Glyph}

theorem Showing.value_succ (showing : Showing fuel) {v : Value}
    (read : value? (fuel + 1) s = some (v, r)) : v.isShowable = true := by
  unfold value? at read
  split at read
  · obtain ⟨⟨t, rest⟩, -, same⟩ := Option.map_eq_some_iff.mp read
    cases same
    rfl
  · split at read
    · cases read
      rfl
    · obtain ⟨⟨vs, rest⟩, items, same⟩ := Option.map_eq_some_iff.mp read
      cases same
      exact showing.items items
  · split at read
    · cases read
      rfl
    · obtain ⟨⟨ms, rest⟩, members, same⟩ := Option.map_eq_some_iff.mp read
      cases same
      exact showing.members rfl members
  · split at read
    · next found literal =>
      cases read
      exact isShowable_of_literal literal
    · split at read
      · exact isShowable_of_unsigned read
      · exact isShowable_of_unsigned read

theorem Showing.items_succ (showing : Showing fuel) {vs : List Value}
    (read : items? (fuel + 1) s = some (vs, r)) : areShowable vs = true := by
  unfold items? at read
  split at read
  · cases read
  · next v rest value =>
    have first := showing.value value
    split at read
    · obtain ⟨⟨more, last⟩, items, same⟩ := Option.map_eq_some_iff.mp read
      cases same
      exact Bool.and_eq_true_iff.mpr ⟨first, showing.items items⟩
    · cases read
      exact Bool.and_eq_true_iff.mpr ⟨first, rfl⟩
    · cases read

theorem Showing.members_succ (showing : Showing fuel) {known ms : Members}
    (shown : haveShowable known = true) (read : members? (fuel + 1) known s = some (ms, r)) :
    haveShowable ms = true := by
  unfold members? at read
  split at read
  · split at read
    · cases read
    · split at read
      · split at read
        · cases read
        · next v rest value =>
          have more := haveShowable_insert (showing.value value) shown
          dsimp only at read
          split at read
          · exact showing.members (more _) read
          · cases read
            exact more _
          · cases read
      · cases read
  · cases read

theorem showing (fuel : Nat) : Showing fuel := by
  induction fuel with
  | zero => exact ⟨nofun, nofun, nofun⟩
  | succ fuel ih => exact ⟨ih.value_succ, ih.items_succ, ih.members_succ⟩

end Reader

theorem isShowable_of_read {s : List Glyph} {v : Value} (found : read s = some v) :
    v.isShowable = true := by
  unfold read at found
  split at found
  · next value =>
    split at found
    · cases found
      exact (Reader.showing _).value value
    · cases found
  · cases found

theorem isShowable_of_readBytes {bytes : List UInt8} {v : Value}
    (found : readBytes bytes = some v) : v.isShowable = true := by
  obtain ⟨text, -, found⟩ := Option.bind_eq_some_iff.mp found
  exact isShowable_of_read found

end Clearance.Json
