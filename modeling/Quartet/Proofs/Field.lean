import Quartet.CodeWord.Encode
import Mathlib.Algebra.Group.Nat.Defs

namespace Quartet

/-!
# Fields as arithmetic

A field is written with shifts and masks and understood with quotients, remainders and sums.

* `Field.toNat_mask`, `Field.toNat_extract` — the greatest value of a field, and the value a
  word holds, as numbers.
* `Field.Fits` — the values that the field has room for.
* `Field.toNat_or_shift` — putting a value above the bits in use adds it, times the weight of
  the field's lowest bit.
* `Field.window` — the bits of a field.
* `Field.shift_extract` — what a field reads, put back into the field.
* `Field.extract_own_bits` — a field reads its own bits and no others.
-/

namespace Field

/-! ### Reading -/

/-- A shift amount below 64 is the amount shifted by. -/
theorem toNat_shiftAmount {n : Nat} (h : n < 64) : n.toUInt64.toNat % 64 = n := by
  simp only [Nat.toUInt64_eq, UInt64.toNat_ofNat']
  omega

theorem toNat_mask (field : Field) (hw : field.width < 64) :
    field.mask.toNat = 2 ^ field.width - 1 := by
  have hpow : 2 ^ field.width < 2 ^ 64 := Nat.pow_lt_pow_right (by decide) hw
  have htop : ((1 : UInt64) <<< field.width.toUInt64).toNat = 2 ^ field.width := by
    rw [UInt64.toNat_shiftLeft, toNat_shiftAmount hw, Nat.shiftLeft_eq, UInt64.toNat_one,
      Nat.one_mul, Nat.mod_eq_of_lt hpow]
  -- so that nothing is borrowed when one is taken away
  have hle : (1 : UInt64) ≤ (1 : UInt64) <<< field.width.toUInt64 := by
    rw [UInt64.le_iff_toNat_le, htop]
    exact Nat.one_le_two_pow
  rw [mask, UInt64.toNat_sub_of_le _ _ hle, htop]
  rfl

/-- The value of a field is a quotient's remainder; the last modulus is the cut to 32 bits. -/
theorem toNat_extract (field : Field) (word : CodeWord) (ho : field.offset < 64)
    (hw : field.width < 64) :
    (field.extract word).toNat
      = word.toNat / 2 ^ field.offset % 2 ^ field.width % 2 ^ 32 := by
  rw [extract, UInt64.toNat_toUInt32, UInt64.toNat_and, UInt64.toNat_shiftRight,
    toNat_shiftAmount ho, toNat_mask field hw, Nat.and_two_pow_sub_one_eq_mod,
    Nat.shiftRight_eq_div_pow]

/-! ### Writing -/

/-- Whether a field has room for a value. -/
def Fits (field : Field) (value : Word) : Prop := value.toNat < 2 ^ field.width

instance (field : Field) (value : Word) : Decidable (field.Fits value) :=
  inferInstanceAs (Decidable (_ < _))

/-- What a field reads fits in it. -/
theorem fits_extract (field : Field) (word : CodeWord) (ho : field.offset < 64)
    (hw : field.width < 64) : field.Fits (field.extract word) := by
  have hlt : word.toNat / 2 ^ field.offset % 2 ^ field.width < 2 ^ field.width :=
    Nat.mod_lt _ (Nat.two_pow_pos _)
  rw [Fits, toNat_extract field word ho hw]
  exact Nat.lt_of_le_of_lt (Nat.mod_le _ _) hlt

/-- The comparison with the mask refuses exactly the values the field has no room for. -/
theorem mask_lt_iff (field : Field) (value : Word) (hw : field.width < 64) :
    field.mask < value.toUInt64 ↔ ¬ field.Fits value := by
  have hpos : 0 < 2 ^ field.width := Nat.two_pow_pos _
  rw [UInt64.lt_iff_toNat_lt, toNat_mask field hw, UInt32.toNat_toUInt64, Fits]
  omega

/-- The bits of a value, moved up to the field and joined with a word that only has bits
    below it: the two numbers add up. -/
theorem toNat_or_shift (field : Field) (word : CodeWord) (value : Word)
    (hword : word.toNat < 2 ^ field.offset) (hfits : field.Fits value)
    (hend : field.offset + field.width < 64) :
    (word ||| value.toUInt64 <<< field.offset.toUInt64).toNat
      = word.toNat + value.toNat * 2 ^ field.offset := by
  -- the value does not leave the word when it is moved up
  have hroom : value.toNat * 2 ^ field.offset < 2 ^ 64 := by
    calc value.toNat * 2 ^ field.offset
        < 2 ^ field.width * 2 ^ field.offset :=
          Nat.mul_lt_mul_of_pos_right hfits (Nat.two_pow_pos _)
      _ = 2 ^ (field.offset + field.width) := by rw [← Nat.pow_add, Nat.add_comm]
      _ < 2 ^ 64 := Nat.pow_lt_pow_right (by decide) hend
  have hshift : (value.toUInt64 <<< field.offset.toUInt64).toNat
      = value.toNat <<< field.offset := by
    rw [UInt64.toNat_shiftLeft, toNat_shiftAmount (by omega), UInt32.toNat_toUInt64]
    exact Nat.mod_eq_of_lt (by rwa [Nat.shiftLeft_eq])
  rw [UInt64.toNat_or, hshift, Nat.or_comm, ← Nat.shiftLeft_add_eq_or_of_lt hword,
    Nat.shiftLeft_eq, Nat.add_comm]

/-! ### Bit by bit -/

/-- A number that fits in some bits has none above them. -/
theorem lt_of_testBit {n width k : Nat} (hfits : n < 2 ^ width) (hbit : n.testBit k = true) :
    k < width :=
  (Nat.pow_lt_pow_iff_right (by decide)).mp
    (Nat.lt_of_le_of_lt (Nat.ge_two_pow_of_testBit hbit) hfits)

/-- The bits of the field, all of them set. -/
def window (field : Field) : CodeWord := field.mask <<< field.offset.toUInt64

/-- Whether a bit is one of the field. -/
def Covers (field : Field) (k : Nat) : Prop := field.offset ≤ k ∧ k < field.offset + field.width

instance (field : Field) (k : Nat) : Decidable (field.Covers k) :=
  inferInstanceAs (Decidable (_ ∧ _))

theorem testBit_window (field : Field) (hend : field.offset + field.width < 64) (k : Nat) :
    field.window.toNat.testBit k = decide (field.Covers k) := by
  have hbits : (decide (k < 64) && (decide (field.offset ≤ k) &&
      decide (k - field.offset < field.width))) = decide (field.Covers k) := by
    rw [Bool.eq_iff_iff]
    simp only [Bool.and_eq_true, decide_eq_true_eq]
    unfold Covers
    omega
  rw [window, UInt64.toNat_shiftLeft, toNat_shiftAmount (by omega), toNat_mask field (by omega),
    Nat.testBit_mod_two_pow, Nat.testBit_shiftLeft, Nat.testBit_two_pow_sub_one, hbits]

/-- The bits of a field's value are those of the word from the field's offset on, as many as the
    field has, but no more than 32. -/
theorem testBit_extract_min (field : Field) (word : CodeWord) (ho : field.offset < 64)
    (hw : field.width < 64) (k : Nat) :
    (field.extract word).toNat.testBit k
      = (decide (k < min field.width 32) && word.toNat.testBit (field.offset + k)) := by
  have hbits : (decide (k < 32) && decide (k < field.width)) = decide (k < min field.width 32) := by
    rw [Bool.eq_iff_iff]
    simp only [Bool.and_eq_true, decide_eq_true_eq]
    omega
  rw [toNat_extract field word ho hw, Nat.testBit_mod_two_pow, Nat.testBit_mod_two_pow,
    Nat.testBit_div_two_pow, ← Bool.and_assoc, hbits, Nat.add_comm]

/-- A field of no more than 32 bits is read with all of them. -/
theorem testBit_extract (field : Field) (word : CodeWord) (ho : field.offset < 64)
    (hw : field.width ≤ 32) (k : Nat) :
    (field.extract word).toNat.testBit k
      = (decide (k < field.width) && word.toNat.testBit (field.offset + k)) := by
  rw [testBit_extract_min field word ho (by omega), Nat.min_eq_left hw]

/-- What a field reads, put back into the field, is the word without the bits outside it. -/
theorem shift_extract (field : Field) (word : CodeWord) (hw : field.width ≤ 32)
    (hend : field.offset + field.width < 64) :
    (field.extract word).toUInt64 <<< field.offset.toUInt64 = word &&& field.window := by
  apply UInt64.toNat_inj.mp
  apply Nat.eq_of_testBit_eq
  intro k
  rw [UInt64.toNat_shiftLeft, toNat_shiftAmount (by omega), UInt32.toNat_toUInt64,
    Nat.testBit_mod_two_pow, Nat.testBit_shiftLeft, testBit_extract field word (by omega) hw,
    UInt64.toNat_and, Nat.testBit_and, testBit_window field hend]
  by_cases hk : field.Covers k
  · obtain ⟨hlow, hhigh⟩ := hk
    have hroom : k < 64 := by omega
    have hwidth : k - field.offset < field.width := by omega
    have hindex : field.offset + (k - field.offset) = k := by omega
    simp [hroom, hlow, hwidth, hindex, Covers, hhigh]
  · -- below the field nothing is shifted in, above it nothing was read
    have hout : (decide (field.offset ≤ k) && decide (k - field.offset < field.width)) = false := by
      rw [Bool.and_eq_false_iff, decide_eq_false_iff_not, decide_eq_false_iff_not]
      unfold Covers at hk
      omega
    rw [← Bool.and_assoc (decide (k ≥ field.offset)), hout, decide_eq_false hk]
    simp

/-! ### Its own bits and no others -/

/-- Words that agree on the bits that a field reads are the same to it. -/
theorem extract_congr (field : Field) {word other : CodeWord} (ho : field.offset < 64)
    (hw : field.width < 64)
    (h : ∀ k < 64, field.offset ≤ k → k < field.offset + min field.width 32 →
      word.toNat.testBit k = other.toNat.testBit k) :
    field.extract word = field.extract other := by
  apply UInt32.toNat_inj.mp
  apply Nat.eq_of_testBit_eq
  intro k
  rw [testBit_extract_min field word ho hw, testBit_extract_min field other ho hw]
  by_cases hk : k < min field.width 32
  · by_cases hroom : field.offset + k < 64
    · rw [h _ hroom (by omega) (by omega)]
    · -- bits past the last one are set in no word
      have hnone : ∀ word : CodeWord, word.toNat.testBit (field.offset + k) = false := fun word =>
        Bool.eq_false_iff.mpr fun hbit => hroom (lt_of_testBit word.toNat_lt hbit)
      rw [hnone word, hnone other]
  · simp [hk]

/-- A value that is moved up to the field joins its bits to those of the word. -/
theorem testBit_or_shift (field : Field) (word : CodeWord) (value : Word)
    (ho : field.offset < 64) (k : Nat) :
    (word ||| value.toUInt64 <<< field.offset.toUInt64).toNat.testBit k = true ↔
      word.toNat.testBit k = true ∨
        k < 64 ∧ field.offset ≤ k ∧ value.toNat.testBit (k - field.offset) = true := by
  rw [UInt64.toNat_or, Nat.testBit_or, UInt64.toNat_shiftLeft, toNat_shiftAmount ho,
    UInt32.toNat_toUInt64, Nat.testBit_mod_two_pow, Nat.testBit_shiftLeft]
  simp

/-- A value that is put into a field whose bits are not set is read back from it. -/
theorem extract_or_shift (field : Field) (word : CodeWord) (value : Word)
    (ho : field.offset < 64) (hw : field.width < 64) (hend : field.offset + field.width ≤ 64)
    (hvalue : value.toNat < 2 ^ min field.width 32)
    (hclear : ∀ k, field.Covers k → word.toNat.testBit k = false) :
    field.extract (word ||| value.toUInt64 <<< field.offset.toUInt64) = value := by
  apply UInt32.toNat_inj.mp
  apply Nat.eq_of_testBit_eq
  intro k
  rw [testBit_extract_min field _ ho hw, Bool.eq_iff_iff, Bool.and_eq_true, decide_eq_true_eq,
    testBit_or_shift field word value ho, Nat.add_sub_cancel_left]
  constructor
  · rintro ⟨hk, hset | ⟨-, -, hbit⟩⟩
    · have hcovers : field.Covers (field.offset + k) := by
        unfold Covers
        omega
      rw [hclear _ hcovers] at hset
      cases hset
    · exact hbit
  · intro hbit
    have hk := lt_of_testBit hvalue hbit
    exact ⟨hk, .inr ⟨by omega, by omega, hbit⟩⟩

/-- A value that is put into a field does not show in a field that shares no bit with it. -/
theorem extract_or_shift_of_disjoint (field other : Field) (word : CodeWord) (value : Word)
    (ho : field.offset < 64) (ho' : other.offset < 64) (hw' : other.width < 64)
    (hvalue : value.toNat < 2 ^ field.width)
    (hdisjoint : ∀ k, ¬ (field.Covers k ∧ other.Covers k)) :
    other.extract (word ||| value.toUInt64 <<< field.offset.toUInt64) = other.extract word := by
  refine extract_congr other ho' hw' fun k _ hlow hhigh => ?_
  rw [Bool.eq_iff_iff, testBit_or_shift field word value ho]
  constructor
  · rintro (hset | ⟨-, hfrom, hbit⟩)
    · exact hset
    · -- a bit of the value belongs to both fields
      have hwithin := lt_of_testBit hvalue hbit
      apply absurd _ (hdisjoint k)
      unfold Covers
      omega
  · exact .inl

/-- A field reads its own bits and no others.  Its value is the word's quotient by the weight of
    its lowest bit, of which the lowest bits are kept, as many as the field has, but no more than
    32; so words that agree on these bits are the same to it.  Within a word, a value that fits is
    read back from the field it is put into, if no bit of the field was set before, and no field
    that shares no bit with this one reads anything else than before. -/
theorem extract_own_bits (field : Field) (word : CodeWord) (ho : field.offset < 64)
    (hw : field.width < 64) :
    (field.extract word).toNat
        = word.toNat / 2 ^ field.offset % 2 ^ field.width % 2 ^ 32 ∧
      (∀ other : CodeWord,
        (∀ k < 64, field.offset ≤ k → k < field.offset + min field.width 32 →
          word.toNat.testBit k = other.toNat.testBit k) →
        field.extract word = field.extract other) ∧
      (field.offset + field.width ≤ 64 →
        ∀ value : Word, value.toNat < 2 ^ min field.width 32 →
          (∀ k, field.Covers k → word.toNat.testBit k = false) →
          let joined := word ||| value.toUInt64 <<< field.offset.toUInt64
          field.extract joined = value ∧
            ∀ other : Field, other.offset < 64 → other.width < 64 →
              (∀ k, ¬ (field.Covers k ∧ other.Covers k)) →
              other.extract joined = other.extract word) := by
  refine ⟨toNat_extract field word ho hw, fun other => extract_congr field ho hw, ?_⟩
  intro hend value hvalue hclear joined
  have hfits : value.toNat < 2 ^ field.width :=
    Nat.lt_of_lt_of_le hvalue (Nat.pow_le_pow_right (by decide) (Nat.min_le_left _ _))
  refine ⟨extract_or_shift field word value ho hw hend hvalue hclear, ?_⟩
  intro other ho' hw' hdisjoint
  exact extract_or_shift_of_disjoint field other word value ho ho' hw' hfits hdisjoint

/-- The four highest bits of a word, put above a field of more than 32 bits that reaches up to
    them. -/
theorem extract_own_bits_highest :
    let field : Field := ⟨'D', 60, 4⟩
    let below : Field := ⟨'C', 20, 40⟩
    let word : CodeWord := 0x0123_4567_89AB_CDEF
    let joined := word ||| (15 : Word).toUInt64 <<< field.offset.toUInt64
    field.extract joined = 15 ∧ below.extract joined = below.extract word ∧
      (below.extract word).toNat = 0x3456_789A ∧
      below.extract word = below.extract 0x0F03_4567_89A0_0000 := by
  intro field below word joined
  have hclear : ∀ k, field.Covers k → word.toNat.testBit k = false := by
    rintro k ⟨hlow, -⟩
    have hword : word.toNat < 2 ^ 60 := by decide
    exact Bool.eq_false_iff.mpr fun hbit => Nat.not_lt.mpr hlow (lt_of_testBit hword hbit)
  have hdisjoint : ∀ k, ¬ (field.Covers k ∧ below.Covers k) := by
    rintro k ⟨⟨hlow, -⟩, -, hhigh⟩
    exact absurd (Nat.lt_of_le_of_lt hlow hhigh) (by decide)
  have hagree : ∀ k < 64, below.offset ≤ k → k < below.offset + min below.width 32 →
      word.toNat.testBit k = (0x0F03_4567_89A0_0000 : CodeWord).toNat.testBit k := by
    decide
  obtain ⟨-, -, hput⟩ := extract_own_bits field word (by decide) (by decide)
  obtain ⟨hread, hframe⟩ := hput (by decide) 15 (by decide) hclear
  obtain ⟨hvalue, hsame, -⟩ := extract_own_bits below word (by decide) (by decide)
  exact ⟨hread, hframe below (by decide) (by decide) hdisjoint, hvalue.trans (by decide),
    hsame _ hagree⟩

end Field

end Quartet
