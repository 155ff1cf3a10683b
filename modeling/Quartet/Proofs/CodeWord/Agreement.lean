import Quartet.Proofs.CodeWord.Reading

namespace Quartet

/-!
# Three ways to read a word

A word can be read as its opcode with the raw operands, as an instruction, and as an instruction of
an opcode that is asked for.  All three look at the tag first.  With an opcode's tag they agree on
the opcode and on the operands; without one, the first two fail alike.  Whether a word is read, and
with which opcode, does not depend on the layout.

* `CodeWord.decodeFields_of_tagByte`, `CodeWord.decodeFields_of_unknown` — the raw operands.
* `CodeWord.decodeAs_of_ne` — a word that is asked for with another opcode.
* `CodeWord.map_opcode_decode`, `CodeWord.map_opcode_decodeAs` — what does not depend on the layout.
* `CodeWord.decoders_agree` — how the three ways go together.
-/

namespace Opcode

/-- No two opcodes share a tag. -/
theorem tag_injective {first second : Opcode} (h : first.tag = second.tag) : first = second := by
  have hfirst := ofTag?_tag first
  rw [h, ofTag?_tag] at hfirst
  exact (Option.some.inj hfirst).symm

theorem ofTag?_eq_none_iff {byte : UInt8} :
    ofTag? byte = none ↔ ∀ opcode : Opcode, byte ≠ opcode.tag := by
  constructor
  · rintro h opcode rfl
    rw [ofTag?_tag] at h
    cases h
  · intro h
    rw [Option.eq_none_iff_forall_ne_some]
    exact fun opcode hopcode => h opcode (tag_of_ofTag? hopcode).symm

end Opcode

namespace CodeWord

/-! ### The tag -/

/-- The tag byte of a word is its remainder. -/
theorem tagByte_eq_ofNat (word : CodeWord) : tagByte word = UInt8.ofNat (word.toNat % 256) := by
  apply UInt8.toNat_inj.mp
  rw [toNat_tagByte, UInt8.toNat_ofNat']
  omega

theorem tagByte_eq_tag_iff (word : CodeWord) (opcode : Opcode) :
    tagByte word = opcode.tag ↔ word.toNat % 256 = opcode.tag.toNat := by
  rw [← UInt8.toNat_inj, toNat_tagByte]

/-! ### Raw operands, and an opcode that is asked for -/

section

variable {word : CodeWord} {opcode : Opcode} (layout : Layout)

theorem decodeFields_of_tagByte (h : tagByte word = opcode.tag) :
    decodeFields layout word = .ok (opcode, operands layout opcode word) := by
  rw [decodeFields, opcode_of_tagByte h]
  rfl

theorem decodeFields_of_unknown (h : Opcode.ofTag? (tagByte word) = none) :
    decodeFields layout word = .error (.unknownOpcode (tagByte word)) := by
  rw [decodeFields, opcode_of_unknown h]
  rfl

/-- A word is not read as one of an opcode whose tag it does not have. -/
theorem decodeAs_of_ne (h : tagByte word ≠ opcode.tag) :
    decodeAs layout opcode word = .error (.invalidOpcode opcode (tagByte word)) :=
  if_pos h

end

/-! ### Either layout -/

/-- The raw operands come with the opcode of the tag. -/
theorem map_fst_decodeFields (layout : Layout) (word : CodeWord) :
    (decodeFields layout word).map Prod.fst = opcode word := by
  rw [decodeFields]
  cases opcode word <;> rfl

/-- An instruction comes with the opcode of the tag. -/
theorem map_opcode_decode (layout : Layout) (word : CodeWord) :
    (decode layout word).map Instruction.opcode = opcode word := by
  cases htag : Opcode.ofTag? (tagByte word) with
  | none =>
    rw [decode_of_unknown layout htag, opcode_of_unknown htag]
    rfl
  | some opcode =>
    have hbyte := (Opcode.tag_of_ofTag? htag).symm
    obtain ⟨instruction, hread, rfl, -⟩ := decode_of_tagByte layout hbyte
    rw [hread, opcode_of_tagByte hbyte]
    rfl

/-- Asked for with an opcode, a word is read with this opcode or not at all, by either layout. -/
theorem map_opcode_decodeAs (layout : Layout) (expected : Opcode) (word : CodeWord) :
    (decodeAs layout expected word).map Instruction.opcode
      = if tagByte word = expected.tag then .ok expected
        else .error (.invalidOpcode expected (tagByte word)) := by
  split
  · next h =>
    rw [← decode_eq_decodeAs layout h, map_opcode_decode, opcode_of_tagByte h]
  · next h =>
    rw [decodeAs_of_ne layout h]
    rfl

/-! ### All three ways -/

/-- A word whose low byte is no opcode's tag is not read in any way.  A word whose low byte is the
    tag of an opcode is read with this opcode: as its operands, as the instruction that has these
    operands, and as the same instruction if this opcode is asked for; asked for with another
    opcode, it is refused.  It is never refused because of the number of its operands, which make
    up an instruction whatever the tag.  Either layout reads the same words, with the same opcode,
    and refuses the others for the same reason. -/
theorem decoders_agree (layout : Layout) (word : CodeWord) :
    let found := UInt8.ofNat (word.toNat % 256)
    ((∀ opcode : Opcode, word.toNat % 256 ≠ opcode.tag.toNat) →
      decodeFields layout word = .error (.unknownOpcode found) ∧
        decode layout word = .error (.unknownOpcode found) ∧
        ∀ expected, decodeAs layout expected word = .error (.invalidOpcode expected found)) ∧
    (∀ opcode : Opcode, word.toNat % 256 = opcode.tag.toNat →
      ∃ values instruction, decodeFields layout word = .ok (opcode, values) ∧
        values = (layout.fields opcode).map (·.extract word) ∧
        decode layout word = .ok instruction ∧
        instruction.opcode = opcode ∧ instruction.fields = values ∧
        Instruction.ofFields? opcode values = some instruction ∧
        decodeAs layout opcode word = .ok instruction ∧
        ∀ other, other ≠ opcode →
          decodeAs layout other word = .error (.invalidOpcode other found)) ∧
    (∀ opcode, ∃ instruction,
      Instruction.ofFields? opcode (operands layout opcode word) = some instruction) ∧
    ∀ other : Layout,
      (decodeFields layout word).map Prod.fst = (decodeFields other word).map Prod.fst ∧
      (decode layout word).map Instruction.opcode = (decode other word).map Instruction.opcode ∧
      ∀ expected, (decodeAs layout expected word).map Instruction.opcode
        = (decodeAs other expected word).map Instruction.opcode := by
  intro found
  have hfound : found = tagByte word := (tagByte_eq_ofNat word).symm
  rw [hfound]
  refine ⟨?_, ?_, fun opcode => exists_ofFields?_operands layout opcode word, fun other => ?_⟩
  · intro h
    have hne : ∀ opcode : Opcode, tagByte word ≠ opcode.tag := fun opcode hopcode =>
      h opcode ((tagByte_eq_tag_iff word opcode).mp hopcode)
    have hnone := Opcode.ofTag?_eq_none_iff.mpr hne
    exact ⟨decodeFields_of_unknown layout hnone, decode_of_unknown layout hnone,
      fun expected => decodeAs_of_ne layout (hne expected)⟩
  · intro opcode h
    have htag := (tagByte_eq_tag_iff word opcode).mpr h
    obtain ⟨instruction, hread, hopcode, hfields⟩ := decode_of_tagByte layout htag
    refine ⟨operands layout opcode word, instruction, decodeFields_of_tagByte layout htag, rfl,
      hread, hopcode, hfields, ?_, ?_, fun other hother => decodeAs_of_ne layout fun hsame => ?_⟩
    · rw [← hfields, ← hopcode, Instruction.ofFields?_fields]
    · rw [← decode_eq_decodeAs layout htag, hread]
    · exact hother (Opcode.tag_injective (hsame.symm.trans htag))
  · refine ⟨?_, ?_, fun expected => ?_⟩
    · rw [map_fst_decodeFields, map_fst_decodeFields]
    · rw [map_opcode_decode, map_opcode_decode]
    · rw [map_opcode_decodeAs, map_opcode_decodeAs]

/-- A word with every bit set but for the tag of `OR`; asked for as a `LOAD_CONSTANT` it is refused
    with its own tag, and with no tag at all it is not read. -/
theorem decoders_agree_ones :
    decodeFields .reference 0xFFFF_FFFF_FFFF_FF4A = .ok (.bitwiseOr, [7, 2097151, 7]) ∧
      decode .reference 0xFFFF_FFFF_FFFF_FF4A = .ok (.bitwiseOr 7 2097151 7) ∧
      decodeAs .reference .loadConstant 0xFFFF_FFFF_FFFF_FF4A
        = .error (.invalidOpcode .loadConstant 74) ∧
      decodeFields .canonical 0xFFFF_FFFF_FFFF_FFFF = .error (.unknownOpcode 255) := by
  obtain ⟨-, hknown, -⟩ := decoders_agree .reference 0xFFFF_FFFF_FFFF_FF4A
  obtain ⟨values, instruction, hraw, hvalues, hread, -, -, hsome, -, hother⟩ :=
    hknown .bitwiseOr (by decide)
  obtain ⟨hunknown, -⟩ := decoders_agree .canonical 0xFFFF_FFFF_FFFF_FFFF
  obtain rfl : values = [7, 2097151, 7] := hvalues.trans (by decide)
  obtain rfl : Instruction.bitwiseOr 7 2097151 7 = instruction := Option.some.inj hsome
  refine ⟨hraw, hread, hother .loadConstant (by decide), (hunknown ?_).1⟩
  intro opcode
  cases opcode <;> decide

end CodeWord

end Quartet
