import Clearance.Proofs.Text.Percent
import Clearance.Text.Quoted
import Mathlib.Algebra.Group.Nat.Defs

/-!
# Reading quoted texts

What is written for a glyph can be read off the front of a text: a backslash says that an escape
follows, and the letter behind it how long this is. The mark that ends a quoted text is never
written for a glyph without a backslash, so that the text ends where it stands. Hence different
texts are quoted differently, and so are different lists of texts.

Results:
1. `value_hex`, `length_hex`: the digits of a number have its value and fill their width.
2. `next_escape`: what is written for a glyph is read as that glyph.
3. `encode_append_inj`: a quoted text in front of anything else is told apart from all others.
4. `quoteList_inj`: so is a list of quoted texts.
-/

namespace Clearance.Text.Quoted

open Percent (hexValue?)

/-! ## Numbers -/

/-- The value of hexadecimal digits. -/
def value (digits : List Char) : Nat :=
  digits.foldl (fun v c => 16 * v + (hexValue? c).getD 0) 0

theorem value_snoc (digits : List Char) (c : Char) :
    value (digits ++ [c]) = 16 * value digits + (hexValue? c).getD 0 := by
  simp [value]

theorem hexValue?_digitChar : ∀ n < 16, hexValue? n.digitChar = some n := by
  decide

theorem value_toDigits (n : Nat) : value (Nat.toDigits 16 n) = n := by
  induction n using Nat.strongRecOn with
  | ind n ih =>
    by_cases small : n < 16
    · rw [Nat.toDigits_of_lt_base small]
      simp [value, hexValue?_digitChar n small]
    · rw [Nat.toDigits_of_base_le (by decide) (Nat.le_of_not_lt small), value_snoc,
        ih (n / 16) (by omega), hexValue?_digitChar _ (Nat.mod_lt n (by decide))]
      exact Nat.div_add_mod n 16

theorem value_hex (width n : Nat) : value (hex width n) = n := by
  have filled (zeros : Nat) (digits : List Char) :
      value (List.replicate zeros '0' ++ digits) = value digits := by
    induction zeros with
    | zero => rfl
    | succ zeros ih => exact ih
  exact (filled _ _).trans (value_toDigits n)

theorem length_hex {width n : Nat} (wide : 0 < width) (fits : n < 16 ^ width) :
    (hex width n).length = width := by
  have short : (Nat.toDigits 16 n).length ≤ width :=
    (Nat.length_toDigits_le_iff (by decide) wide).mpr fits
  unfold hex
  dsimp only
  rw [List.length_append, List.length_replicate]
  omega

/-! ## Glyphs -/

/-- The number of a glyph. -/
def code : Glyph → Nat
  | .char c => c.toNat
  | .lone half => 0xD800 + half

theorem ofNat?_code (g : Glyph) : Glyph.ofNat? (code g) = some g := by
  unfold Glyph.ofNat?
  cases g with
  | char c =>
    have valid : c.toNat.isValidChar := c.valid
    have same := Char.ofNat_toNat c
    rw [Char.ofNat, dif_pos valid] at same
    rw [code, dif_pos valid, same]
  | lone half =>
    have small : half.val < 0x800 := half.isLt
    have broken : ¬ (0xD800 + half.val).isValidChar := by
      unfold Nat.isValidChar
      omega
    rw [code, dif_neg broken, dif_pos (by omega)]
    simp

/-- Reads the number of a glyph in digits of a width, and what follows it. -/
def numbered (width : Nat) (s : List Char) : Option (Glyph × List Char) :=
  (Glyph.ofNat? (value (s.take width))).map (·, s.drop width)

theorem numbered_hex {width : Nat} (wide : 0 < width) {g : Glyph} (fits : code g < 16 ^ width)
    (rest : List Char) : numbered width (hex width (code g) ++ rest) = some (g, rest) := by
  have filled := length_hex wide fits
  rw [numbered, List.take_left' filled, List.drop_left' filled, value_hex, ofNat?_code]
  rfl

/-- Reads a glyph between two marks, and what follows it. -/
def next (mark : Char) : List Char → Option (Glyph × List Char)
  | [] => none
  | '\\' :: 'n' :: rest => some (.char '\n', rest)
  | '\\' :: 'r' :: rest => some (.char '\r', rest)
  | '\\' :: 't' :: rest => some (.char '\t', rest)
  | '\\' :: 'x' :: rest => numbered 2 rest
  | '\\' :: 'u' :: rest => numbered 4 rest
  | '\\' :: 'U' :: rest => numbered 8 rest
  | '\\' :: c :: rest => some (.char c, rest)
  | c :: rest => if c = mark then none else some (.char c, rest)

theorem code_lt (g : Glyph) : code g < 0x110000 := by
  cases g with
  | char c =>
    have valid : c.toNat < 0xD800 ∨ 0xDFFF < c.toNat ∧ c.toNat < 0x110000 := c.valid
    rw [code]
    omega
  | lone half =>
    rw [code]
    omega

theorem next_number (mark : Char) (g : Glyph) (rest : List Char) :
    next mark (number (code g) ++ rest) = some (g, rest) := by
  unfold number
  split
  · next short => exact numbered_hex (by decide) short rest
  · split
    · next short => exact numbered_hex (by decide) short rest
    · exact numbered_hex (by decide) (Nat.lt_trans (code_lt g) (by decide)) rest

/-- A mark that texts stand between. -/
def IsMark (mark : Char) : Prop :=
  mark = '\x27' ∨ mark = '"'

theorem isMark_markOf (s : List Glyph) : IsMark (markOf s) := by
  unfold markOf
  split
  · exact .inr rfl
  · exact .inl rfl

variable {mark : Char}

/-- The end of a quoted text is not read as a glyph. -/
theorem next_mark (proper : IsMark mark) (rest : List Char) : next mark (mark :: rest) = none := by
  obtain rfl | rfl := proper
  · simp [next]
  · simp [next]

theorem next_escape (proper : IsMark mark) (g : Glyph) (rest : List Char) :
    next mark (escape mark g ++ rest) = some (g, rest) := by
  cases g with
  | lone half => exact next_number mark (.lone half) rest
  | char c =>
    unfold escape
    dsimp only
    split
    · next signed =>
      obtain rfl | rfl := signed
      · obtain rfl | rfl := proper
        · rfl
        · rfl
      · rfl
    · next plain =>
      split
      · next line => rw [line]; rfl
      · split
        · next back => rw [back]; rfl
        · split
          · next tab => rw [tab]; rfl
          · split
            · obtain ⟨notMark, notBackslash⟩ := not_or.mp plain
              simp [next, notMark, notBackslash]
            · exact next_number mark (.char c) rest

/-! ## Texts -/

/-- Two texts between the same marks, in front of anything else, are told apart. -/
theorem escapes_append_inj (proper : IsMark mark) {s t : List Glyph} {back other : List Char}
    (same : s.flatMap (escape mark) ++ mark :: back = t.flatMap (escape mark) ++ mark :: other) :
    s = t ∧ back = other := by
  induction s generalizing t with
  | nil =>
    cases t with
    | nil => exact ⟨rfl, (List.cons.inj same).2⟩
    | cons g rest =>
      have read := congrArg (next mark) same
      rw [List.flatMap_cons, List.append_assoc, next_escape proper] at read
      cases (next_mark proper back).symm.trans read
  | cons g rest ih =>
    have read := congrArg (next mark) same
    rw [List.flatMap_cons, List.append_assoc, next_escape proper] at read
    cases t with
    | nil => cases (next_mark proper other).symm.trans read.symm
    | cons h others =>
      rw [List.flatMap_cons, List.append_assoc, next_escape proper] at read
      obtain ⟨rfl, later⟩ := Prod.mk.inj (Option.some.inj read)
      obtain ⟨rfl, behind⟩ := ih later
      exact ⟨rfl, behind⟩

theorem encode_append_inj {s t : List Glyph} {back other : List Char}
    (same : encode s ++ back = encode t ++ other) : s = t ∧ back = other := by
  unfold encode at same
  dsimp only at same
  rw [List.cons_append, List.cons_append, List.append_assoc, List.append_assoc] at same
  obtain ⟨first, rest⟩ := List.cons.inj same
  rw [← first] at rest
  exact escapes_append_inj (isMark_markOf s) rest

/-! ## Lists -/

/-- A list of quoted texts behind the bracket that opens it. -/
def listed (texts : List (List Glyph)) : List Char :=
  [',', ' '].intercalate (texts.map encode) ++ [']']

/-- What stands behind the first of the texts. -/
def behind (rest : List (List Glyph)) : List Char :=
  if rest = [] then [']'] else ',' :: ' ' :: listed rest

theorem listed_cons (s : List Glyph) (rest : List (List Glyph)) :
    listed (s :: rest) = encode s ++ behind rest := by
  cases rest with
  | nil => simp [listed, behind]
  | cons t others => simp [listed, behind, List.intercalate_cons_cons]

/-- A bracket begins no quoted text. -/
theorem listed_cons_ne_nil (s : List Glyph) (rest : List (List Glyph)) :
    listed (s :: rest) ≠ listed [] := by
  rw [listed_cons]
  intro same
  have first : markOf s = ']' := (List.cons.inj same).1
  have proper : IsMark ']' := first ▸ isMark_markOf s
  obtain other | other := proper
  · cases other
  · cases other

theorem listed_inj {texts others : List (List Glyph)} (same : listed texts = listed others) :
    texts = others := by
  induction texts generalizing others with
  | nil =>
    cases others with
    | nil => rfl
    | cons t more => exact absurd same.symm (listed_cons_ne_nil t more)
  | cons s rest ih =>
    cases others with
    | nil => exact absurd same (listed_cons_ne_nil s rest)
    | cons t more =>
      rw [listed_cons, listed_cons] at same
      obtain ⟨rfl, later⟩ := encode_append_inj same
      unfold behind at later
      split at later
      · next last =>
        split at later
        · next lastToo => rw [last, lastToo]
        · cases later
      · split at later
        · cases later
        · rw [ih (List.cons.inj (List.cons.inj later).2).2]

end Clearance.Text.Quoted

namespace Clearance.Text

open Quoted (listed listed_inj)

theorem Glyph.ofString_injective {s t : String} (same : Glyph.ofString s = Glyph.ofString t) :
    s = t := by
  rw [← toText_ofString s, same, toText_ofString]

theorem toList_quoteList (items : List String) :
    (quoteList items).toList = '[' :: listed (items.map Glyph.ofString) := by
  simp [quoteList, listed, quote, String.toList_intercalate, Function.comp_def]

/-- Different lists are quoted differently. -/
theorem quoteList_inj {items others : List String} :
    quoteList items = quoteList others ↔ items = others := by
  refine ⟨fun same => ?_, fun same => by rw [same]⟩
  have letters := congrArg String.toList same
  rw [toList_quoteList, toList_quoteList] at letters
  have glyphs := listed_inj (List.cons.inj letters).2
  exact (List.map_inj_right fun _ _ => Glyph.ofString_injective).mp glyphs

end Clearance.Text
