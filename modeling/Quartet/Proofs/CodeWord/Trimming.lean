import Quartet.Proofs.CodeWord.Bytes
import Quartet.Proofs.CodeWord.Reading

namespace Quartet

/-!
# Trimming words

Two operands are read with fewer bits by the reference layout than by the canonical one.  A word
is *trimmed* by clearing the bits in which the two tables differ; after that the canonical
layout reads in it what the reference layout reads in the word as it was.

* `Field.clear`, `Field.extract_clear` — a word without the bits of a field, and what is read in it.
* `CodeWord.trim`, `CodeWord.trimStream` — a word, and all words of a stream, without the bits
  that only the canonical layout reads.
* `CodeWord.decode_trim` — trimmed words, read by the canonical layout.
* `CodeWord.trim_eq_self` — words whose operands are narrow enough for both layouts.
-/

/-! ### Clearing bits -/

namespace Field

/-- A word with the bits of the field cleared. -/
def clear (field : Field) (word : CodeWord) : CodeWord := word &&& ~~~field.window

/-- Clearing a field clears its bits and no others. -/
theorem testBit_clear (field : Field) (word : CodeWord) (hend : field.offset + field.width < 64)
    (k : Nat) :
    (field.clear word).toNat.testBit k = (word.toNat.testBit k && ! decide (field.Covers k)) := by
  have hnot : (~~~field.window).toNat = 2 ^ 64 - (field.window.toNat + 1) := by
    rw [UInt64.toNat_not, Nat.sub_sub, Nat.add_comm 1]
    rfl
  rw [clear, UInt64.toNat_and, Nat.testBit_and, hnot,
    Nat.testBit_two_pow_sub_succ field.window.toNat_lt, testBit_window field hend]
  by_cases hk : k < 64
  · rw [decide_eq_true hk, Bool.true_and]
  · -- no word has such a bit, cleared or not
    have hzero : word.toNat.testBit k = false :=
      Nat.testBit_lt_two_pow (Nat.lt_of_lt_of_le word.toNat_lt
        (Nat.pow_le_pow_right (by decide) (by omega)))
    rw [hzero, Bool.false_and, Bool.false_and]

/-- Whether clearing a surplus leaves of a field what a narrower field reads: the surplus is the
    rest of the field at its upper end, or it lies outside a field that stays as wide. -/
def Trims (surplus field narrow : Field) : Prop :=
  narrow.offset = field.offset ∧ field.offset < 64 ∧ field.width ≤ 32 ∧
    surplus.offset + surplus.width < 64 ∧
    (surplus.offset = field.offset + narrow.width ∧
        surplus.offset + surplus.width = field.offset + field.width ∨
      narrow.width = field.width ∧
        (surplus.offset + surplus.width ≤ field.offset ∨
          field.offset + field.width ≤ surplus.offset))

instance (surplus field narrow : Field) : Decidable (surplus.Trims field narrow) :=
  inferInstanceAs (Decidable (_ ∧ _))

/-- What a field reads after clearing is what the narrower field reads. -/
theorem extract_clear {surplus field narrow : Field} (h : surplus.Trims field narrow)
    (word : CodeWord) : field.extract (surplus.clear word) = narrow.extract word := by
  obtain ⟨hoffset, ho, hw, hend, hsurplus⟩ := h
  have hnarrow : narrow.width ≤ 32 := by omega
  apply UInt32.toNat_inj.mp
  apply Nat.eq_of_testBit_eq
  intro k
  rw [testBit_extract field _ ho hw, testBit_extract narrow _ (by omega) hnarrow,
    testBit_clear surplus word hend, hoffset]
  -- a bit of the field is a bit of the narrower one unless it is in the surplus
  have hbits : (decide (k < field.width) && ! decide (surplus.Covers (field.offset + k)))
      = decide (k < narrow.width) := by
    rw [Bool.eq_iff_iff]
    simp only [Bool.and_eq_true, Bool.not_eq_true', decide_eq_true_eq, decide_eq_false_iff_not]
    unfold Covers
    omega
  rw [← hbits, Bool.and_comm (word.toNat.testBit _), ← Bool.and_assoc]

/-- Clearing bits that are not set changes nothing. -/
theorem clear_eq_self {field : Field} {word : CodeWord} (hend : field.offset + field.width < 64)
    (hbits : ∀ k, field.Covers k → word.toNat.testBit k = false) : field.clear word = word := by
  apply UInt64.toNat_inj.mp
  apply Nat.eq_of_testBit_eq
  intro k
  rw [testBit_clear field word hend]
  by_cases hk : field.Covers k
  · rw [hbits k hk, Bool.false_and]
  · rw [decide_eq_false hk, Bool.not_false, Bool.and_true]

/-- Nothing is cleared at the upper end of a field that holds a small value. -/
theorem clear_eq_self_of_extract_lt (field surplus : Field) (width : Nat) {word : CodeWord}
    (ho : field.offset < 64) (hw : field.width ≤ 32)
    (hoffset : surplus.offset = field.offset + width)
    (hend : surplus.offset + surplus.width = field.offset + field.width)
    (hroom : surplus.offset + surplus.width < 64)
    (hsmall : (field.extract word).toNat < 2 ^ width) : surplus.clear word = word := by
  refine clear_eq_self hroom fun k hk => ?_
  obtain ⟨hlow, hhigh⟩ := hk
  have hbit : (field.extract word).toNat.testBit (k - field.offset) = false :=
    Nat.testBit_lt_two_pow <|
      Nat.lt_of_lt_of_le hsmall (Nat.pow_le_pow_right (by decide) (by omega))
  have hfield : k - field.offset < field.width := by omega
  have hindex : field.offset + (k - field.offset) = k := by omega
  rwa [testBit_extract field word ho hw, decide_eq_true hfield, Bool.true_and, hindex] at hbit

/-- Clearing bits makes no word larger. -/
theorem toNat_clear_le (field : Field) (word : CodeWord) :
    (field.clear word).toNat ≤ word.toNat := by
  rw [clear, UInt64.toNat_and]
  exact Nat.and_le_left

end Field

/-! ### Trimming -/

/-- Whether the operands of an instruction are within the bits that the reference layout reads:
    24 bits of a constant, 21 bits of an address. -/
def Instruction.Narrow : Instruction → Prop
  | loadConstant _ value => value.toNat < 2 ^ 24
  | bitwiseOr _ address _ => address.toNat < 2 ^ 21
  | memoryRead .. | memoryWrite .. => True

/-- The bits of a word that hold an operand only for the canonical layout: bits 35 and 36 of a
    constant, bits 32 to 37 of an address. -/
def Layout.surplus : Opcode → Option Field
  | .loadConstant => some ⟨'C', 35, 2⟩
  | .bitwiseOr => some ⟨'C', 32, 6⟩
  | .memoryRead | .memoryWrite => none

namespace CodeWord

/-- A word with the bits cleared that only the canonical layout reads. -/
def trim (word : CodeWord) : CodeWord :=
  match (Opcode.ofTag? (tagByte word)).bind Layout.surplus with
  | some field => field.clear word
  | none => word

/-- A stream with each of its words trimmed; a fragment at its end stays. -/
def trimStream : List UInt8 → List UInt8
  | [] => []
  | b₀ :: b₁ :: b₂ :: b₃ :: b₄ :: b₅ :: rest =>
    toBytes (trim (ofBytes [b₀, b₁, b₂, b₃, b₄, b₅])) ++ trimStream rest
  | fragment => fragment

theorem toNat_trim_le (word : CodeWord) : (trim word).toNat ≤ word.toNat := by
  unfold trim
  split
  · exact Field.toNat_clear_le _ _
  · exact Nat.le_refl _

/-- Trimming leaves the tag alone. -/
theorem tagByte_trim (word : CodeWord) : tagByte (trim word) = tagByte word := by
  unfold trim
  split
  case h_2 => rfl
  case h_1 field hfield =>
    obtain ⟨opcode, -, hsurplus⟩ := Option.bind_eq_some_iff.mp hfield
    have habove : field.Trims Field.tag Field.tag := by
      cases opcode <;> cases hsurplus <;> decide
    rw [tagByte, tagByte, Field.extract_clear habove]

/-- The canonical layout reads in a trimmed word the operands that the reference layout reads in
    the word as it was. -/
theorem operands_trim {word : CodeWord} {opcode : Opcode} (h : tagByte word = opcode.tag) :
    operands .canonical opcode (trim word) = operands .reference opcode word := by
  have htag : Opcode.ofTag? (tagByte word) = some opcode := by rw [h, Opcode.ofTag?_tag]
  have htrim : trim word = match Layout.surplus opcode with
      | some field => field.clear word
      | none => word := by
    rw [trim, htag, Option.bind_some]
  rw [htrim]
  -- the opcodes without a surplus have the same table in both layouts
  cases opcode with
  | memoryRead => rfl
  | memoryWrite => rfl
  | loadConstant =>
    show [Field.extract ⟨'B', 8, 3⟩ (Field.clear ⟨'C', 35, 2⟩ word),
      Field.extract ⟨'C', 11, 26⟩ (Field.clear ⟨'C', 35, 2⟩ word)] = _
    have hdestination : Field.Trims ⟨'C', 35, 2⟩ ⟨'B', 8, 3⟩ ⟨'B', 8, 3⟩ := by decide
    have hvalue : Field.Trims ⟨'C', 35, 2⟩ ⟨'C', 11, 26⟩ ⟨'C', 11, 24⟩ := by decide
    rw [Field.extract_clear hdestination, Field.extract_clear hvalue]
    rfl
  | bitwiseOr =>
    show [Field.extract ⟨'B', 8, 3⟩ (Field.clear ⟨'C', 32, 6⟩ word),
      Field.extract ⟨'C', 11, 27⟩ (Field.clear ⟨'C', 32, 6⟩ word),
      Field.extract ⟨'D', 38, 3⟩ (Field.clear ⟨'C', 32, 6⟩ word)] = _
    have hdestination : Field.Trims ⟨'C', 32, 6⟩ ⟨'B', 8, 3⟩ ⟨'B', 8, 3⟩ := by decide
    have haddress : Field.Trims ⟨'C', 32, 6⟩ ⟨'C', 11, 27⟩ ⟨'C', 11, 21⟩ := by decide
    have hsource : Field.Trims ⟨'C', 32, 6⟩ ⟨'D', 38, 3⟩ ⟨'D', 38, 3⟩ := by decide
    rw [Field.extract_clear hdestination, Field.extract_clear haddress,
      Field.extract_clear hsource]
    rfl

/-- The canonical layout reads a trimmed word as the reference layout reads the word as it
    was. -/
theorem decode_trim (word : CodeWord) : decode .canonical (trim word) = decode .reference word := by
  cases htag : Opcode.ofTag? (tagByte word) with
  | none =>
    rw [decode_of_unknown .reference htag, decode_of_unknown .canonical (by rwa [tagByte_trim]),
      tagByte_trim]
  | some opcode =>
    have hbyte := (Opcode.tag_of_ofTag? htag).symm
    obtain ⟨i, hi, hopcode, hfields⟩ := decode_of_tagByte .reference hbyte
    refine hi ▸ (decode_eq_ok_iff _ _ _).mpr ⟨?_, ?_⟩
    · rw [tagByte_trim, hbyte, hopcode]
    · rw [hopcode, operands_trim hbyte, hfields]

/-- A word with narrow operands is trimmed already. -/
theorem trim_eq_self {word : CodeWord}
    (h : ∀ instruction, decode .canonical word = .ok instruction → instruction.Narrow) :
    trim word = word := by
  cases htag : Opcode.ofTag? (tagByte word) with
  | none => rw [trim, htag, Option.bind_none]
  | some opcode =>
    obtain ⟨i, hi, rfl, hfields⟩ := decode_of_tagByte .canonical (Opcode.tag_of_ofTag? htag).symm
    have hnarrow := h i hi
    rw [trim, htag, Option.bind_some]
    cases i with
    | memoryRead base destination => rfl
    | memoryWrite source offset base => rfl
    | loadConstant destination value =>
      obtain ⟨-, hvalue⟩ : Field.extract ⟨'B', 8, 3⟩ word = destination ∧
          Field.extract ⟨'C', 11, 26⟩ word = value := by
        simpa [operands, Layout.fields, Instruction.opcode, Instruction.fields, eq_comm]
          using hfields
      exact Field.clear_eq_self_of_extract_lt ⟨'C', 11, 26⟩ ⟨'C', 35, 2⟩ 24 (by decide) (by decide)
        rfl rfl (by decide) (hvalue ▸ hnarrow)
    | bitwiseOr destination address source =>
      obtain ⟨-, haddress, -⟩ : Field.extract ⟨'B', 8, 3⟩ word = destination ∧
          Field.extract ⟨'C', 11, 27⟩ word = address ∧
          Field.extract ⟨'D', 38, 3⟩ word = source := by
        simpa [operands, Layout.fields, Instruction.opcode, Instruction.fields, eq_comm]
          using hfields
      exact Field.clear_eq_self_of_extract_lt ⟨'C', 11, 27⟩ ⟨'C', 32, 6⟩ 21 (by decide) (by decide)
        rfl rfl (by decide) (haddress ▸ hnarrow)

/-! ### Streams -/

/-- The words of a trimmed stream are the words of the stream, trimmed. -/
theorem ofStream_trimStream (code : List UInt8) :
    ofStream (trimStream code) = (ofStream code).map (Except.map trim) := by
  fun_induction ofStream code with
  | case1 => rfl
  | case2 b₀ b₁ b₂ b₃ b₄ b₅ rest ih =>
    have hlt : (trim (ofBytes [b₀, b₁, b₂, b₃, b₄, b₅])).toNat < 2 ^ wordBits :=
      Nat.lt_of_le_of_lt (toNat_trim_le _) (toNat_ofBytes_lt rfl)
    rw [trimStream, ofStream_toBytes_append, ofBytes_toBytes hlt, ih]
    rfl
  | case3 fragment hne hshort =>
    rw [trimStream, ofStream]
    · rfl
    all_goals assumption

/-- A stream whose words are trimmed already is left as it is. -/
theorem trimStream_eq_self {code : List UInt8}
    (h : ∀ word, .ok word ∈ ofStream code → trim word = word) : trimStream code = code := by
  fun_induction ofStream code with
  | case1 => rfl
  | case2 b₀ b₁ b₂ b₃ b₄ b₅ rest ih =>
    have hfirst := h _ List.mem_cons_self
    rw [trimStream, hfirst, toBytes_ofBytes rfl, ih fun word hmem => h word (.tail _ hmem)]
    rfl
  | case3 fragment hne hshort =>
    rw [trimStream]
    all_goals assumption

end CodeWord

end Quartet
