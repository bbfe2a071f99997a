import Clearance.Text.Blank
import Clearance.Text.Percent

/-!
# Reading segments

A segment is read by taking `%` and two hexadecimal digits for a byte, and every other character for
the bytes that it has in UTF-8. Those bytes are the UTF-8 form of the name that was written, so that
a name is never lost or mistaken for another one, even if it looks like a segment itself.

Results:
1. `Segment`, `segment_encode`: what a segment consists of.
2. `decode_encode`, `readName_segment`: what is written for a name is read as that name.
3. `segment_inj`, `segment_ne_empty`: different names have different segments, and only the empty
   name has an empty one.
4. `Segment.mem`, `Segment.not_mem`, `Segment.no_blank`: nothing that means something in a path or
   ends it stands in a segment.
-/

namespace Clearance.Text.Percent

/-! ## The form of a segment -/

/-- The character stands for itself. -/
def Plain (c : Char) : Prop :=
  c.isAlphanum = true ∨ c ∈ ['_', '.', '-', '~', ',', '*']

instance (c : Char) : Decidable (Plain c) :=
  inferInstanceAs (Decidable (_ ∨ _))

/-- The value of a hexadecimal digit. -/
def hexValue? (c : Char) : Option Nat :=
  let n := c.toNat
  if 0x30 ≤ n ∧ n ≤ 0x39 then some (n - 0x30)
  else if 0x41 ≤ n ∧ n ≤ 0x46 then some (n - 0x37)
  else if 0x61 ≤ n ∧ n ≤ 0x66 then some (n - 0x57)
  else none

/-- A text of characters that stand for themselves and of bytes behind `%`. -/
inductive Segment : List Char → Prop
  | nil : Segment []
  | plain {c : Char} {rest : List Char} (plain : Plain c) (later : Segment rest) :
      Segment (c :: rest)
  | byte {high low : Char} {rest : List Char} {upper lower : Nat}
      (highDigit : hexValue? high = some upper) (lowDigit : hexValue? low = some lower)
      (later : Segment rest) : Segment ('%' :: high :: low :: rest)

/-- The bytes that a segment stands for. A `%` without two hexadecimal digits stands for none. -/
def decode : List Char → Option (List UInt8)
  | [] => some []
  | '%' :: high :: low :: rest => do
    let upper ← hexValue? high
    let lower ← hexValue? low
    let bytes ← decode rest
    pure (UInt8.ofNat (16 * upper + lower) :: bytes)
  | c :: rest => if c = '%' then none else (decode rest).map (String.utf8EncodeChar c ++ ·)

/-- The name that a segment stands for. -/
def readName (text : String) : Option String :=
  (decode text.toList).bind fun bytes => String.fromUTF8? bytes.toByteArray

/-! ## Characters -/

theorem isAlphanum_iff {c : Char} : c.isAlphanum = true ↔
    (0x30 ≤ c.toNat ∧ c.toNat ≤ 0x39) ∨ (0x41 ≤ c.toNat ∧ c.toNat ≤ 0x5A) ∨
      (0x61 ≤ c.toNat ∧ c.toNat ≤ 0x7A) := by
  have codes : ('0'.val.toNat = 0x30 ∧ '9'.val.toNat = 0x39) ∧
      ('A'.val.toNat = 0x41 ∧ 'Z'.val.toNat = 0x5A) ∧
      ('a'.val.toNat = 0x61 ∧ 'z'.val.toNat = 0x7A) := by decide
  have same : c.toNat = c.val.toNat := rfl
  show ((decide ('A'.val ≤ c.val ∧ c.val ≤ 'Z'.val) ||
    decide ('a'.val ≤ c.val) && decide (c.val ≤ 'z'.val)) ||
    decide ('0'.val ≤ c.val) && decide (c.val ≤ '9'.val)) = true ↔ _
  simp only [Bool.or_eq_true, Bool.and_eq_true, decide_eq_true_eq, UInt32.le_iff_toNat_le]
  omega

theorem Plain.range {c : Char} (plain : Plain c) : 0x2A ≤ c.toNat ∧ c.toNat < 0x7F := by
  rcases plain with letter | sign
  · have codes := isAlphanum_iff.mp letter
    omega
  · simp only [List.mem_cons, List.not_mem_nil, or_false] at sign
    rcases sign with rfl | rfl | rfl | rfl | rfl | rfl <;> decide

theorem hexValue?_hexDigit : ∀ n < 16, hexValue? (hexDigit n) = some n := by
  decide

theorem plain_of_hexValue? {c : Char} {n : Nat} (digit : hexValue? c = some n) : Plain c := by
  refine .inl (isAlphanum_iff.mpr ?_)
  unfold hexValue? at digit
  dsimp only at digit
  split at digit
  · omega
  · split at digit
    · omega
    · split at digit
      · omega
      · cases digit

/-- A byte that stands for itself is the one byte of a plain character. -/
theorem plain_of_isPlain {b : UInt8} (plain : isPlain b = true) :
    Plain (Char.ofNat b.toNat) ∧ String.utf8EncodeChar (Char.ofNat b.toNat) = [b] := by
  have checked : ∀ n < 256, isPlain (UInt8.ofNat n) = true →
      Plain (Char.ofNat n) ∧ String.utf8EncodeChar (Char.ofNat n) = [UInt8.ofNat n] := by
    decide +kernel
  have own := checked b.toNat b.toNat_lt
  rw [UInt8.ofNat_toNat] at own
  exact own plain

/-! ## Writing and reading -/

theorem halves (b : UInt8) :
    b.toNat / 16 < 16 ∧ b.toNat % 16 < 16 ∧
      UInt8.ofNat (16 * (b.toNat / 16) + b.toNat % 16) = b := by
  have bound := b.toNat_lt
  refine ⟨by omega, by omega, ?_⟩
  rw [Nat.div_add_mod, UInt8.ofNat_toNat]

theorem segment_encodeByte (b : UInt8) {rest : List Char} (later : Segment rest) :
    Segment (encodeByte b ++ rest) := by
  obtain ⟨upper, lower, -⟩ := halves b
  unfold encodeByte
  split
  · next plain => exact .plain (plain_of_isPlain plain).1 later
  · exact .byte (hexValue?_hexDigit _ upper) (hexValue?_hexDigit _ lower) later

theorem decode_encodeByte (b : UInt8) (rest : List Char) :
    decode (encodeByte b ++ rest) = (decode rest).map (b :: ·) := by
  obtain ⟨upper, lower, same⟩ := halves b
  unfold encodeByte
  split
  · next plain =>
    obtain ⟨own, bytes⟩ := plain_of_isPlain plain
    have other : Char.ofNat b.toNat ≠ '%' := by
      intro percent
      rw [percent] at own
      exact absurd own (by decide)
    rw [List.singleton_append, decode, if_neg other, bytes]
    · rfl
    · exact fun _ _ _ percent _ => other percent
  · show decode ('%' :: hexDigit _ :: hexDigit _ :: rest) = _
    rw [decode, hexValue?_hexDigit _ upper, hexValue?_hexDigit _ lower]
    dsimp only [bind, Option.bind]
    rw [same]
    cases decode rest <;> rfl

theorem segment_encode (name : List Char) : Segment (encode name) := by
  unfold encode
  induction name.flatMap String.utf8EncodeChar with
  | nil => exact .nil
  | cons b bytes ih => exact segment_encodeByte b ih

/-- The bytes of a name are read as they were written. -/
theorem decode_encode (name : List Char) :
    decode (encode name) = some (name.flatMap String.utf8EncodeChar) := by
  unfold encode
  induction name.flatMap String.utf8EncodeChar with
  | nil => rfl
  | cons b bytes ih => rw [List.flatMap_cons, decode_encodeByte, ih, Option.map_some]

theorem fromUTF8?_bytes (name : String) :
    String.fromUTF8? (name.toList.flatMap String.utf8EncodeChar).toByteArray = some name := by
  show String.fromUTF8? name.toList.utf8Encode = some name
  rw [String.utf8Encode_toList, String.fromUTF8?, dif_pos name.isValidUTF8]
  rfl

theorem readName_segment (name : String) : readName (segment name) = some name := by
  rw [readName, segment, String.toList_ofList, decode_encode]
  exact fromUTF8?_bytes name

theorem segment_inj {name other : String} : segment name = segment other ↔ name = other := by
  refine ⟨fun same => ?_, congrArg segment⟩
  have read := congrArg readName same
  rw [readName_segment, readName_segment] at read
  exact Option.some.inj read

theorem segment_ne_empty {name : String} (named : name ≠ "") : segment name ≠ "" :=
  fun empty => named (segment_inj.mp (empty.trans (show "" = segment "" from rfl)))

/-! ## What does not stand in a segment -/

theorem Segment.mem {text : List Char} (segment : Segment text) :
    ∀ c ∈ text, c = '%' ∨ Plain c := by
  induction segment with
  | nil => exact nofun
  | plain plain _ ih => exact List.forall_mem_cons.mpr ⟨.inr plain, ih⟩
  | byte high low _ ih =>
    exact List.forall_mem_cons.mpr ⟨.inl rfl, List.forall_mem_cons.mpr
      ⟨.inr (plain_of_hexValue? high), List.forall_mem_cons.mpr
        ⟨.inr (plain_of_hexValue? low), ih⟩⟩⟩

/-- A character that neither stands for itself nor is `%` is in no segment. -/
theorem Segment.not_mem {text : List Char} (segment : Segment text) {c : Char} (sign : c ≠ '%')
    (other : ¬ Plain c) : c ∉ text :=
  fun present => (segment.mem c present).elim sign other

theorem Segment.no_blank {text : List Char} (segment : Segment text) :
    ∀ c ∈ text, isBlank c = false := by
  intro c present
  rcases segment.mem c present with rfl | plain
  · decide
  · have range := plain.range
    simp [isBlank]
    omega

theorem slash_not_mem_encode (name : List Char) : '/' ∉ encode name :=
  (segment_encode name).not_mem (by decide) (by decide)

end Clearance.Text.Percent
