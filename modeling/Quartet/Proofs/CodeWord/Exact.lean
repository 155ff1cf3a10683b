import Quartet.Proofs.CodeWord.Packing

namespace Quartet

/-!
# Exact code words

No operand is cut to make it fit, and none reaches a bit outside its field.  Operands that have a
code word make it up together with the tag: as numbers they add up to it, and bit by bit each of
them stands in its field, with nothing between the fields.

* `CodeWord.testBit_amount` — the bits of operands in their fields.
* `CodeWord.map_name_fields` — the letters of the fields, in order.
* `CodeWord.testBit_encodeFields` — the bits of a code word.
* `CodeWord.encodeFields_exact` — which operands have a code word, what it is, and what is wrong
  with the others.
-/

namespace CodeWord

/-! ### Bit by bit -/

/-- Putting a value that fits above the bits in use adds the bits of the value to them. -/
theorem testBit_add_of_fits {field : Field} {value : Word} {below : Nat}
    (hbelow : below < 2 ^ field.offset) (hfits : field.Fits value) (k : Nat) :
    (below + value.toNat * 2 ^ field.offset).testBit k = true ↔
      below.testBit k = true ∨
        field.Covers k ∧ value.toNat.testBit (k - field.offset) = true := by
  rw [Nat.add_comm, Nat.mul_comm, Nat.testBit_two_pow_mul_add _ hbelow]
  by_cases hk : k < field.offset
  · have hout : ¬ field.Covers k := fun hcovers => Nat.not_le.mpr hk hcovers.1
    simp [hk, hout]
  · have hle : field.offset ≤ k := Nat.not_lt.mp hk
    -- the bits in use end below the field, and the value ends within it
    have hnone : below.testBit k = false :=
      Nat.testBit_lt_two_pow (Nat.lt_of_lt_of_le hbelow (Nat.pow_le_pow_right (by decide) hle))
    have hcovers : value.toNat.testBit (k - field.offset) = true → field.Covers k := by
      intro hbit
      have hwithin : k - field.offset < field.width := Field.lt_of_testBit hfits hbit
      exact ⟨hle, by omega⟩
    rw [if_neg hk, hnone]
    constructor
    · intro hbit
      exact .inr ⟨hcovers hbit, hbit⟩
    · rintro (hfalse | ⟨-, hbit⟩)
      · cases hfalse
      · exact hbit

/-- Every bit of what operands in their fields add up to is a bit of one of them, in its
    field. -/
theorem testBit_amount {low below : Nat} {operands : List (Field × Word)}
    (hstacked : Field.Stacked low (operands.map Prod.fst)) (hbelow : below < 2 ^ low)
    (hfits : ∀ operand ∈ operands, operand.1.Fits operand.2) (k : Nat) :
    (below + amount operands).testBit k = true ↔
      below.testBit k = true ∨
        ∃ operand ∈ operands, operand.1.Covers k ∧
          operand.2.toNat.testBit (k - operand.1.offset) = true := by
  induction operands generalizing low below with
  | nil => simp
  | cons first rest ih =>
    obtain ⟨field, value⟩ := first
    obtain ⟨hoffset, -, hrest⟩ := hstacked
    have hbelow' : below < 2 ^ field.offset :=
      Nat.lt_of_lt_of_le hbelow (Nat.pow_le_pow_right (by decide) hoffset)
    obtain ⟨hfirst, hothers⟩ := List.forall_mem_cons.mp hfits
    -- the first operand joins what is below the others
    rw [amount_cons, ← Nat.add_assoc, ih hrest (Field.add_lt_of_fits hbelow' hfirst) hothers,
      testBit_add_of_fits hbelow' hfirst, or_assoc]
    simp

/-- Every bit of a code word is a bit of the tag or of an operand, in its field. -/
theorem testBit_encodeFields {opcode : Opcode} {values : List Word} {word : CodeWord}
    (h : encodeFields opcode values = .ok word) (k : Nat) :
    word.toNat.testBit k = true ↔
      opcode.tag.toNat.testBit k = true ∨
        ∃ operand ∈ slots opcode values, operand.1.Covers k ∧
          operand.2.toNat.testBit (k - operand.1.offset) = true := by
  obtain ⟨hlength, hfits⟩ := fits_of_encodeFields h
  rw [(toNat_of_encodeFields h).1]
  exact testBit_amount (stacked_slots hlength) opcode.tag.toNat_lt hfits k

/-- A bit above the tag byte that belongs to no field of the opcode is not set. -/
theorem testBit_encodeFields_of_uncovered {opcode : Opcode} {values : List Word}
    {word : CodeWord} (h : encodeFields opcode values = .ok word) {k : Nat}
    (htag : ¬ Field.tag.Covers k)
    (hfields : ∀ field ∈ Layout.canonical.fields opcode, ¬ field.Covers k) :
    word.toNat.testBit k = false := by
  rw [← Bool.not_eq_true, testBit_encodeFields h]
  rintro (hbit | ⟨operand, hmem, hcovers, -⟩)
  · have hk : k < Field.tag.width := Field.lt_of_testBit opcode.tag.toNat_lt hbit
    exact htag ⟨Nat.zero_le k, hk⟩
  · exact hfields _ (List.of_mem_zip hmem).1 hcovers

/-! ### Fields in order -/

/-- The fields of an opcode are named by the first of the letters B, C and D, in this order. -/
theorem map_name_fields (opcode : Opcode) :
    (Layout.canonical.fields opcode).map Field.name
      = Instruction.fieldLetters.take (Layout.canonical.fields opcode).length := by
  cases opcode <;> rfl

/-! ### Which operands have a code word -/

/-- Operands fail to have a code word in one of two ways: there are more or fewer of them than
    fields, whatever they are, or else one of them is too large, the first in the order of the
    letters of the fields.  Otherwise their code word is the tag and the operands in their fields,
    added up.  It is a number of 48 bits, each operand is read back from its field, each bit of the
    word is one of the tag or of an operand in its field, and there is none outside the fields. -/
theorem encodeFields_exact (opcode : Opcode) (values : List Word) :
    (∀ error, encodeFields opcode values = .error error ↔
      Check.FirstFailure (checks opcode values) error) ∧
    ((Layout.canonical.fields opcode).map Field.name
      = Instruction.fieldLetters.take (Layout.canonical.fields opcode).length) ∧
    (∀ word, encodeFields opcode values = .ok word ↔
      values.length = (Layout.canonical.fields opcode).length ∧
        (∀ operand ∈ slots opcode values, operand.2.toNat < 2 ^ operand.1.width) ∧
        word.toNat = opcode.tag.toNat +
          ((slots opcode values).map fun (field, value) => value.toNat * 2 ^ field.offset).sum) ∧
    ∀ word, encodeFields opcode values = .ok word →
      word.toNat < 2 ^ 48 ∧
        (∀ operand ∈ slots opcode values, operand.1.extract word = operand.2) ∧
        (∀ k, word.toNat.testBit k = true ↔
          opcode.tag.toNat.testBit k = true ∨
            ∃ operand ∈ slots opcode values, operand.1.Covers k ∧
              operand.2.toNat.testBit (k - operand.1.offset) = true) ∧
        ∀ k, ¬ Field.tag.Covers k →
          (∀ field ∈ Layout.canonical.fields opcode, ¬ field.Covers k) →
          word.toNat.testBit k = false := by
  refine ⟨governs_encodeFields opcode values, map_name_fields opcode, fun word => ?_,
    fun word hword => ?_⟩
  · constructor
    · intro hword
      obtain ⟨hlength, hfits⟩ := fits_of_encodeFields hword
      exact ⟨hlength, hfits, (toNat_of_encodeFields hword).1⟩
    · rintro ⟨hlength, hfits, hsum⟩
      obtain ⟨word', hword', hsum', -⟩ := exists_encodeFields hlength hfits
      rw [hword', UInt64.toNat_inj.mp (hsum.trans hsum'.symm)]
  · exact ⟨(toNat_of_encodeFields hword).2, extract_of_encodeFields hword,
      testBit_encodeFields hword, fun _ => testBit_encodeFields_of_uncovered hword⟩

/-- The largest operands of `OR`; one more in the address, together with a register that is too
    large as well; and the same with a fourth operand. -/
theorem encodeFields_exact_largest :
    encodeFields .bitwiseOr [7, 134217727, 7] = .ok 0x1FF_FFFF_FF4A ∧
      (0x1FF_FFFF_FF4A : CodeWord).toNat.testBit 41 = false ∧
      encodeFields .bitwiseOr [7, 134217728, 8] =
        .error (.fieldOverflow .bitwiseOr 'C' 134217728 27) ∧
      encodeFields .bitwiseOr [7, 134217728, 8, 0] = .error (.fieldCount .bitwiseOr 3 4) := by
  have hword : encodeFields .bitwiseOr [7, 134217727, 7] = .ok 0x1FF_FFFF_FF4A := by decide
  obtain ⟨-, -, -, hbits⟩ := encodeFields_exact .bitwiseOr [7, 134217727, 7]
  obtain ⟨-, -, -, hnone⟩ := hbits _ hword
  refine ⟨hword, hnone 41 (by decide) (by decide), ?_, ?_⟩
  · obtain ⟨herror, -⟩ := encodeFields_exact .bitwiseOr [7, 134217728, 8]
    exact (herror _).mpr (.later rfl (.later (by decide) (.here (by decide))))
  · obtain ⟨herror, -⟩ := encodeFields_exact .bitwiseOr [7, 134217728, 8, 0]
    exact (herror _).mpr (.here (by decide))

end CodeWord

end Quartet
