import Quartet.CodeWord.Decode
import Quartet.Proofs.CodeWord.Packing
import Mathlib.Data.List.Basic

namespace Quartet

/-!
# Reading back what was written

A word is read by its tag and by the table of operand fields, and nothing else of it matters.
What was written with the canonical layout is read back by it as it was, and by the reference
layout with two of the operands cut.

* `CodeWord.decode_eq_ok_iff`, `CodeWord.decode_eq_error_iff` — what a word is read as.
* `Layout.cut` — an instruction as a layout reads it.
* `CodeWord.decode_canonical_of_encode`, `CodeWord.decode_of_encode` — a written instruction, read
  by the canonical layout and by either layout.
* `CodeWord.decode_reference` — the reference layout reads every word as the canonical one does,
  and cuts.
-/

/-! ### Operands and instructions -/

namespace Instruction

/-- An instruction is determined by its opcode and its operands. -/
theorem eq_of_fields {i j : Instruction} (hopcode : i.opcode = j.opcode)
    (hfields : i.fields = j.fields) : i = j := by
  have hi := ofFields?_fields i
  rw [hopcode, hfields, ofFields?_fields] at hi
  exact (Option.some.inj hi).symm

/-- As many operands as the opcode has fields make up an instruction. -/
theorem exists_ofFields? (layout : Layout) (opcode : Opcode) (values : List Word)
    (h : values.length = (layout.fields opcode).length) :
    ∃ instruction, ofFields? opcode values = some instruction := by
  cases layout <;> cases opcode <;>
    simp only [Layout.fields, List.length_cons, List.length_nil] at h
  case reference.loadConstant | canonical.loadConstant | reference.memoryRead |
      canonical.memoryRead =>
    obtain ⟨b, c, rfl⟩ := List.length_eq_two.mp h
    exact ⟨_, rfl⟩
  all_goals
    obtain ⟨b, c, d, rfl⟩ := List.length_eq_three.mp h
    exact ⟨_, rfl⟩

end Instruction

namespace CodeWord

/-! ### What a word is read as -/

theorem toNat_tagByte (word : CodeWord) : (tagByte word).toNat = word.toNat % 256 := by
  rw [tagByte, UInt32.toNat_toUInt8, Field.toNat_extract _ _ (by decide) (by decide)]
  simp only [Field.tag]
  omega

theorem opcode_of_tagByte {word : CodeWord} {opcode : Opcode} (h : tagByte word = opcode.tag) :
    CodeWord.opcode word = .ok opcode := by
  rw [CodeWord.opcode, h, Opcode.ofTag?_tag]

theorem opcode_of_unknown {word : CodeWord} (h : Opcode.ofTag? (tagByte word) = none) :
    CodeWord.opcode word = .error (.unknownOpcode (tagByte word)) := by
  rw [CodeWord.opcode, h]

/-- A word with an opcode's tag is read as a word of this opcode. -/
theorem decode_eq_decodeAs {word : CodeWord} {opcode : Opcode} (layout : Layout)
    (h : tagByte word = opcode.tag) : decode layout word = decodeAs layout opcode word := by
  rw [decode, opcode_of_tagByte h]
  rfl

/-- The operands that a layout reads in a word are as many as make up an instruction, whatever the
    opcode. -/
theorem exists_ofFields?_operands (layout : Layout) (opcode : Opcode) (word : CodeWord) :
    ∃ instruction, Instruction.ofFields? opcode (operands layout opcode word) = some instruction :=
  Instruction.exists_ofFields? layout opcode _ (by simp [operands])

/-- A word with an opcode's tag is read as an instruction with that opcode. -/
theorem decode_of_tagByte {word : CodeWord} {opcode : Opcode} (layout : Layout)
    (h : tagByte word = opcode.tag) :
    ∃ instruction, decode layout word = .ok instruction ∧ instruction.opcode = opcode ∧
      instruction.fields = operands layout opcode word := by
  obtain ⟨instruction, hsome⟩ := exists_ofFields?_operands layout opcode word
  refine ⟨instruction, ?_, Instruction.of_ofFields? hsome⟩
  rw [decode_eq_decodeAs layout h, decodeAs, if_neg (not_not_intro h), hsome]

/-- A word with no opcode's tag is not read. -/
theorem decode_of_unknown {word : CodeWord} (layout : Layout)
    (h : Opcode.ofTag? (tagByte word) = none) :
    decode layout word = .error (.unknownOpcode (tagByte word)) := by
  rw [decode, opcode_of_unknown h]
  rfl

/-- A word is read as an instruction exactly if it has its tag and its operands. -/
theorem decode_eq_ok_iff (layout : Layout) (word : CodeWord) (instruction : Instruction) :
    decode layout word = .ok instruction ↔
      tagByte word = instruction.opcode.tag ∧
        operands layout instruction.opcode word = instruction.fields := by
  constructor
  · intro h
    cases htag : Opcode.ofTag? (tagByte word) with
    | none =>
      rw [decode_of_unknown layout htag] at h
      cases h
    | some opcode =>
      have hbyte := (Opcode.tag_of_ofTag? htag).symm
      obtain ⟨read, hread, rfl, hfields⟩ := decode_of_tagByte layout hbyte
      rw [hread] at h
      cases h
      exact ⟨hbyte, hfields.symm⟩
  · rintro ⟨htag, hfields⟩
    obtain ⟨read, hread, hopcode, hread'⟩ := decode_of_tagByte layout htag
    rw [hread, Instruction.eq_of_fields hopcode (hread'.trans hfields)]

/-- Every operand that was read fits in the field it was read from. -/
theorem fits_of_decode {layout : Layout} {word : CodeWord} {instruction : Instruction}
    (h : decode layout word = .ok instruction) :
    ∀ operand ∈ (layout.fields instruction.opcode).zip instruction.fields,
      operand.1.Fits operand.2 := by
  obtain ⟨-, hoperands⟩ := (decode_eq_ok_iff _ _ _).mp h
  intro operand hmem
  rw [← hoperands, operands, ← List.map_id (layout.fields _), List.map_map, List.zip_map',
    List.mem_map] at hmem
  obtain ⟨field, hfield, rfl⟩ := hmem
  have hbounds := Layout.offset_width_lt _ _ hfield
  exact field.fits_extract word hbounds.1 hbounds.2

/-- The only words that are not read are those with no opcode's tag. -/
theorem decode_eq_error_iff (layout : Layout) (word : CodeWord) (error : DecodeError) :
    decode layout word = .error error ↔
      Opcode.ofTag? (tagByte word) = none ∧ error = .unknownOpcode (tagByte word) := by
  cases htag : Opcode.ofTag? (tagByte word) with
  | none =>
    rw [decode_of_unknown layout htag]
    simp [eq_comm]
  | some opcode =>
    obtain ⟨read, hread, -⟩ := decode_of_tagByte layout (Opcode.tag_of_ofTag? htag).symm
    simp [hread]

end CodeWord

/-! ### What a layout cuts -/

/-- An instruction as a layout reads it: the reference layout leaves 24 bits of a constant and
    21 bits of an address. -/
def Layout.cut : Layout → Instruction → Instruction
  | .reference, .loadConstant destination value =>
    .loadConstant destination (UInt32.ofNat (value.toNat % 2 ^ 24))
  | .reference, .bitwiseOr destination address source =>
    .bitwiseOr destination (UInt32.ofNat (address.toNat % 2 ^ 21)) source
  | _, instruction => instruction

@[simp] theorem Layout.cut_canonical (instruction : Instruction) :
    Layout.canonical.cut instruction = instruction := by
  cases instruction <;> rfl

@[simp] theorem Layout.opcode_cut (layout : Layout) (instruction : Instruction) :
    (layout.cut instruction).opcode = instruction.opcode := by
  cases layout <;> cases instruction <;> rfl

namespace CodeWord

/-- The value that a field at the same place, but no wider, reads is a remainder. -/
theorem extract_of_le (field narrow : Field) (word : CodeWord)
    (hoffset : narrow.offset = field.offset) (hwidth : narrow.width ≤ field.width)
    (ho : field.offset < 64) (hw : field.width ≤ 32) :
    narrow.extract word = UInt32.ofNat ((field.extract word).toNat % 2 ^ narrow.width) := by
  apply UInt32.toNat_inj.mp
  have hlt : ∀ n : Nat, n % 2 ^ narrow.width < 2 ^ 32 := fun n =>
    Nat.lt_of_lt_of_le (Nat.mod_lt _ (Nat.two_pow_pos _))
      (Nat.pow_le_pow_right (by decide) (Nat.le_trans hwidth hw))
  have hlt' : ∀ n : Nat, n % 2 ^ field.width < 2 ^ 32 := fun n =>
    Nat.lt_of_lt_of_le (Nat.mod_lt _ (Nat.two_pow_pos _)) (Nat.pow_le_pow_right (by decide) hw)
  rw [Field.toNat_extract narrow word (by omega) (by omega), UInt32.toNat_ofNat_of_lt' (hlt _),
    Field.toNat_extract field word ho (by omega), hoffset, Nat.mod_eq_of_lt (hlt _),
    Nat.mod_eq_of_lt (hlt' _), Nat.mod_mod_of_dvd _ (Nat.pow_dvd_pow 2 hwidth)]

/-- Of a word, the reference layout reads the operands that the canonical layout reads, cut. -/
theorem operands_reference {word : CodeWord} {instruction : Instruction}
    (h : operands .canonical instruction.opcode word = instruction.fields) :
    operands .reference instruction.opcode word = (Layout.reference.cut instruction).fields := by
  cases instruction with
  | loadConstant destination value =>
    obtain ⟨rfl, rfl⟩ : Field.extract ⟨'B', 8, 3⟩ word = destination ∧
        Field.extract ⟨'C', 11, 26⟩ word = value := by
      simpa [operands, Layout.fields, Instruction.opcode, Instruction.fields] using h
    show [Field.extract ⟨'B', 8, 3⟩ word, Field.extract ⟨'C', 11, 24⟩ word] = _
    rw [extract_of_le ⟨'C', 11, 26⟩ ⟨'C', 11, 24⟩ word rfl (by decide) (by decide) (by decide)]
    rfl
  | bitwiseOr destination address source =>
    obtain ⟨rfl, rfl, rfl⟩ : Field.extract ⟨'B', 8, 3⟩ word = destination ∧
        Field.extract ⟨'C', 11, 27⟩ word = address ∧
        Field.extract ⟨'D', 38, 3⟩ word = source := by
      simpa [operands, Layout.fields, Instruction.opcode, Instruction.fields] using h
    show [Field.extract ⟨'B', 8, 3⟩ word, Field.extract ⟨'C', 11, 21⟩ word,
      Field.extract ⟨'D', 38, 3⟩ word] = _
    rw [extract_of_le ⟨'C', 11, 27⟩ ⟨'C', 11, 21⟩ word rfl (by decide) (by decide) (by decide)]
    rfl
  -- the other two opcodes have the same table in both layouts
  | memoryRead base destination => exact h
  | memoryWrite source offset base => exact h

/-- The reference layout reads what the canonical layout reads, cut. -/
theorem decode_reference (word : CodeWord) :
    decode .reference word = (decode .canonical word).map Layout.reference.cut := by
  cases hcanonical : decode .canonical word with
  | error error =>
    rw [decode_eq_error_iff] at hcanonical
    exact (decode_eq_error_iff _ _ _).mpr hcanonical
  | ok instruction =>
    obtain ⟨htag, hoperands⟩ := (decode_eq_ok_iff _ _ _).mp hcanonical
    refine (decode_eq_ok_iff _ _ _).mpr ⟨?_, ?_⟩
    · rw [Layout.opcode_cut, htag]
    · rw [Layout.opcode_cut, operands_reference hoperands]

/-- Either layout reads what the canonical layout reads, as far as it cuts. -/
theorem decode_of_canonical {word : CodeWord} {instruction : Instruction} (layout : Layout)
    (h : decode .canonical word = .ok instruction) :
    decode layout word = .ok (layout.cut instruction) := by
  cases layout with
  | canonical => rw [h, Layout.cut_canonical]
  | reference =>
    rw [decode_reference, h]
    rfl

/-! ### Written words -/

/-- A written word has the tag of its instruction. -/
theorem tagByte_of_encode {instruction : Instruction} {word : CodeWord}
    (h : encode instruction = .ok word) : tagByte word = instruction.opcode.tag := by
  obtain ⟨-, hsum⟩ := (encode_eq_ok_iff _ _).mp h
  have habove : 256 ∣ amount (placed instruction) := dvd_amount (stacked_placed instruction)
  have htag := instruction.opcode.tag.toNat_lt
  apply UInt8.toNat_inj.mp
  rw [toNat_tagByte, hsum]
  omega

/-- The operands of a written instruction are read back by the canonical layout. -/
theorem operands_of_encode {instruction : Instruction} {word : CodeWord}
    (h : encode instruction = .ok word) :
    operands .canonical instruction.opcode word = instruction.fields := by
  have hlength := Layout.length_fields .canonical instruction
  have hread : ∀ operand ∈ placed instruction, operand.1.extract word = operand.2 :=
    extract_of_encodeFields h
  calc operands .canonical instruction.opcode word
      = ((placed instruction).map Prod.fst).map (·.extract word) := by
        rw [placed, slots, List.map_fst_zip (Nat.le_of_eq hlength), operands]
    _ = (placed instruction).map Prod.snd := by
        rw [List.map_map]
        exact List.map_congr_left hread
    _ = instruction.fields := List.map_snd_zip (Nat.le_of_eq hlength.symm)

/-- A written instruction is read back by the canonical layout as it was. -/
theorem decode_canonical_of_encode {instruction : Instruction} {word : CodeWord}
    (h : encode instruction = .ok word) : decode .canonical word = .ok instruction :=
  (decode_eq_ok_iff _ _ _).mpr ⟨tagByte_of_encode h, operands_of_encode h⟩

/-- A written instruction is read back by either layout as far as that layout cuts. -/
theorem decode_of_encode {instruction : Instruction} {word : CodeWord} (layout : Layout)
    (h : encode instruction = .ok word) : decode layout word = .ok (layout.cut instruction) :=
  decode_of_canonical layout (decode_canonical_of_encode h)

end CodeWord

end Quartet
