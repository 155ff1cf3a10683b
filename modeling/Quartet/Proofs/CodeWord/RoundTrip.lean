import Quartet.Proofs.CodeWord.Bytes
import Quartet.Proofs.CodeWord.Reading
import Mathlib.Data.List.Forall2

namespace Quartet

/-!
# Round trips of code words

Writing and reading undo each other, each as far as the other one looks.  An instruction comes
back from its word, and from the bytes of its word, as the layout reads it.  A word comes back
from its instruction without the bits that the layout does not look at, whatever these are.

* `Layout.window` — the bits that a layout looks at in the words of an opcode.
* `CodeWord.foldlM_insertField_extract` — writing what was read collects the bits it was read
  from.
* `CodeWord.encode_of_decode` — the word of an instruction that was read.
* `CodeWord.decode_bytes_of_encode` — the instruction of a word that was written.
-/

/-! ### The bits that are looked at -/

/-- The bits that a layout looks at in the words of an opcode: those of the tag and of the
    operand fields. -/
def Layout.window (layout : Layout) (opcode : Opcode) : CodeWord :=
  (layout.fields opcode).foldl (fun bits field => bits ||| field.window) Field.tag.window

/-- Joining windows joins the bits of their fields. -/
theorem Field.testBit_foldl_window (fields : List Field) (bits : CodeWord) (k : Nat)
    (h : ∀ field ∈ fields, field.offset + field.width < 64) :
    (fields.foldl (fun bits field => bits ||| field.window) bits).toNat.testBit k = true ↔
      bits.toNat.testBit k = true ∨ ∃ field ∈ fields, field.Covers k := by
  induction fields generalizing bits with
  | nil => simp
  | cons field rest ih =>
    obtain ⟨hfield, hrest⟩ := List.forall_mem_cons.mp h
    rw [List.foldl_cons, ih _ hrest, UInt64.toNat_or, Nat.testBit_or,
      field.testBit_window hfield]
    simp [or_assoc]

/-- A bit is looked at if it belongs to the tag or to one of the operand fields. -/
theorem Layout.testBit_window (layout : Layout) (opcode : Opcode) (k : Nat) :
    (layout.window opcode).toNat.testBit k = true ↔
      k < 8 ∨ ∃ field ∈ layout.fields opcode, field.Covers k := by
  have hends : ∀ field ∈ layout.fields opcode, field.offset + field.width < 64 := by
    cases layout <;> cases opcode <;> decide
  have htag : Field.tag.Covers k ↔ k < 8 := by simp [Field.Covers, Field.tag]
  rw [window, Field.testBit_foldl_window _ _ _ hends, Field.tag.testBit_window (by decide),
    decide_eq_true_iff, htag]

/-- Whether a field lies at the lower end of another one, which lies within a code word and
    holds no more than a machine word. -/
def Field.Begins (narrow wide : Field) : Prop :=
  narrow.offset = wide.offset ∧ narrow.width ≤ wide.width ∧ wide.width ≤ 32 ∧
    wide.offset + wide.width ≤ wordBits

instance (narrow wide : Field) : Decidable (narrow.Begins wide) :=
  inferInstanceAs (Decidable (_ ∧ _))

/-- Either layout reads an operand at the lower end of the field it is written to. -/
theorem Layout.begins_fields (layout : Layout) (opcode : Opcode) :
    List.Forall₂ Field.Begins (layout.fields opcode) (Layout.canonical.fields opcode) := by
  cases layout <;> cases opcode <;> decide

namespace CodeWord

/-! ### Writing what was read -/

/-- An operand that was read at the lower end of a field can be written to that field, and
    brings back the bits it was read from. -/
theorem insertField_extract (opcode : Opcode) (word bits : CodeWord) {narrow wide : Field}
    (h : narrow.Begins wide) :
    insertField opcode bits (wide, narrow.extract word)
      = .ok (bits ||| (word &&& narrow.window)) := by
  obtain ⟨hoffset, hwidth, hword, hend⟩ := h
  unfold wordBits at hend
  -- what the narrower field reads has room in the wider one
  have hfits : wide.Fits (narrow.extract word) := by
    have hnarrow := narrow.fits_extract word (by omega) (by omega)
    exact Nat.lt_of_lt_of_le hnarrow (Nat.pow_le_pow_right (by decide) hwidth)
  have hroom : ¬ (narrow.extract word).toUInt64 > wide.mask := by
    rw [gt_iff_lt, wide.mask_lt_iff _ (by omega)]
    exact not_not_intro hfits
  show (if (narrow.extract word).toUInt64 > wide.mask then _ else _) = _
  rw [if_neg hroom, ← hoffset, narrow.shift_extract word (by omega) (by omega)]

/-- Operands that were read at the lower ends of fields can all be written to these fields, and
    bring back the bits they were read from. -/
theorem foldlM_insertField_extract (opcode : Opcode) (word : CodeWord) {narrow wide : List Field}
    (h : List.Forall₂ Field.Begins narrow wide) (bits : CodeWord) :
    (wide.zip (narrow.map (·.extract word))).foldlM (insertField opcode) (word &&& bits)
      = .ok (word &&& narrow.foldl (fun bits field => bits ||| field.window) bits) := by
  -- the word that is being made shows those bits that are windows of the fields done so far
  induction h generalizing bits with
  | nil => rfl
  | @cons field target _ _ hfirst _ ih =>
    have hjoin : (word &&& bits) ||| (word &&& field.window)
        = word &&& (bits ||| field.window) := by
      apply UInt64.toNat_inj.mp
      rw [UInt64.toNat_or, UInt64.toNat_and, UInt64.toNat_and, UInt64.toNat_and, UInt64.toNat_or,
        Nat.and_or_distrib_left]
    rw [List.map_cons, List.zip_cons_cons, List.foldlM_cons,
      insertField_extract opcode word _ hfirst, hjoin]
    exact ih _

/-- The tag of a word is what the tag's window shows of it. -/
theorem tag_toUInt64 {word : CodeWord} {opcode : Opcode} (h : tagByte word = opcode.tag) :
    opcode.tag.toUInt64 = word &&& Field.tag.window := by
  have hwindow : Field.tag.window.toNat = 2 ^ 8 - 1 := by decide
  apply UInt64.toNat_inj.mp
  rw [UInt64.toNat_and, hwindow, Nat.and_two_pow_sub_one_eq_mod, UInt8.toNat_toUInt64, ← h,
    toNat_tagByte]

/-- An instruction that was read is written as the bits that were looked at. -/
theorem encode_eq_and_window {layout : Layout} {word : CodeWord} {instruction : Instruction}
    (h : decode layout word = .ok instruction) :
    encode instruction = .ok (word &&& layout.window instruction.opcode) := by
  obtain ⟨htag, hoperands⟩ := (decode_eq_ok_iff _ _ _).mp h
  rw [encode_eq_foldlM, placed, slots, ← hoperands, tag_toUInt64 htag]
  exact foldlM_insertField_extract _ word (layout.begins_fields _) _

/-- A word is left as it is by a window that shows all of its bits. -/
theorem and_eq_self_iff (word window : CodeWord) :
    word &&& window = word ↔
      ∀ k, word.toNat.testBit k = true → window.toNat.testBit k = true := by
  rw [← UInt64.toNat_inj, UInt64.toNat_and]
  constructor
  · intro h k hk
    rw [← h, Nat.testBit_and, Bool.and_eq_true] at hk
    exact hk.2
  · intro h
    apply Nat.eq_of_testBit_eq
    intro k
    rw [Nat.testBit_and]
    cases hk : word.toNat.testBit k with
    | false => rfl
    | true => rw [h k hk, Bool.and_true]

/-- Nothing more is cut of an instruction that was read. -/
theorem cut_of_decode {layout : Layout} {word : CodeWord} {instruction : Instruction}
    (h : decode layout word = .ok instruction) : layout.cut instruction = instruction := by
  have hfits := fits_of_decode h
  cases layout with
  | canonical => exact Layout.cut_canonical instruction
  | reference =>
    cases instruction with
    | memoryRead base destination => rfl
    | memoryWrite source offset base => rfl
    | loadConstant destination value =>
      have hvalue : value.toNat < 2 ^ 24 := hfits (⟨'C', 11, 24⟩, value) (.tail _ (.head _))
      show Instruction.loadConstant destination (UInt32.ofNat (value.toNat % 2 ^ 24)) = _
      rw [Nat.mod_eq_of_lt hvalue, UInt32.ofNat_toNat]
    | bitwiseOr destination address source =>
      have haddress : address.toNat < 2 ^ 21 := hfits (⟨'C', 11, 21⟩, address) (.tail _ (.head _))
      show Instruction.bitwiseOr destination (UInt32.ofNat (address.toNat % 2 ^ 21)) source = _
      rw [Nat.mod_eq_of_lt haddress, UInt32.ofNat_toNat]

/-! ### There and back -/

/-- A word is read exactly if its low byte is a tag.  What it is read as can be written, and is
    written as the bits of the word that were looked at, whatever the other bits are: as the word
    itself if it has no others.  Both layouts read the word that was written as before. -/
theorem encode_of_decode (layout : Layout) (word : CodeWord) :
    ((∃ instruction, decode layout word = .ok instruction) ↔
        ∃ opcode : Opcode, word.toNat % 256 = opcode.tag.toNat) ∧
      ∀ instruction, decode layout word = .ok instruction →
        let window := layout.window instruction.opcode
        (∀ k, window.toNat.testBit k = true ↔
            k < 8 ∨ ∃ field ∈ layout.fields instruction.opcode,
              field.offset ≤ k ∧ k < field.offset + field.width) ∧
          ∃ kept, encode instruction = .ok kept ∧
            kept = word &&& window ∧
            (kept = word ↔
              ∀ k, word.toNat.testBit k = true → window.toNat.testBit k = true) ∧
            decode layout kept = .ok instruction ∧
            decode .canonical kept = .ok instruction := by
  constructor
  · constructor
    · rintro ⟨instruction, h⟩
      obtain ⟨htag, -⟩ := (decode_eq_ok_iff _ _ _).mp h
      exact ⟨instruction.opcode, by rw [← toNat_tagByte, htag]⟩
    · rintro ⟨opcode, h⟩
      have htag : tagByte word = opcode.tag := UInt8.toNat_inj.mp (by rw [toNat_tagByte, h])
      obtain ⟨instruction, hread, -⟩ := decode_of_tagByte layout htag
      exact ⟨instruction, hread⟩
  · intro instruction h window
    have hencode : encode instruction = .ok (word &&& window) := encode_eq_and_window h
    have hagain : decode layout (word &&& window) = .ok instruction := by
      rw [decode_of_encode layout hencode, cut_of_decode h]
    exact ⟨layout.testBit_window _, word &&& window, hencode, rfl, and_eq_self_iff _ _, hagain,
      decode_canonical_of_encode hencode⟩

/-- Of a word with every bit set but for the tag of `OR`, the bits from 41 on and those between
    the two upper operands are dropped. -/
theorem encode_of_decode_ones :
    decode .reference 0xFFFF_FFFF_FFFF_FF4A = .ok (.bitwiseOr 7 2097151 7) ∧
      encode (.bitwiseOr 7 2097151 7) = .ok 0x1C0_FFFF_FF4A := by
  have hread : decode .reference 0xFFFF_FFFF_FFFF_FF4A = .ok (.bitwiseOr 7 2097151 7) := by decide
  have hwindow : (0xFFFF_FFFF_FFFF_FF4A : CodeWord) &&& Layout.reference.window .bitwiseOr
      = 0x1C0_FFFF_FF4A := by decide
  obtain ⟨-, kept, hencode, hkept, -⟩ :=
    (encode_of_decode .reference 0xFFFF_FFFF_FFFF_FF4A).2 _ hread
  exact ⟨hread, hencode.trans (congrArg Except.ok (hkept.trans hwindow))⟩

/-- What can be written is a number of 48 bits that its six bytes stand for.  The canonical
    layout reads from these bytes what was written; the reference layout reads the same but for a
    constant cut to 24 bits or an address cut to 21.  So no two instructions share a word. -/
theorem decode_bytes_of_encode {instruction : Instruction} {word : CodeWord}
    (h : encode instruction = .ok word) :
    word.toNat < 2 ^ wordBits ∧
      ofBytes (toBytes word) = word ∧
      decode .canonical (ofBytes (toBytes word)) = .ok instruction ∧
      decode .reference (ofBytes (toBytes word)) = .ok (Layout.reference.cut instruction) ∧
      ∀ other, encode other = .ok word → other = instruction := by
  have hlt := toNat_lt_of_encode h
  have hbytes := ofBytes_toBytes hlt
  have hcanonical := decode_canonical_of_encode h
  refine ⟨hlt, hbytes, ?_, ?_, ?_⟩
  · rw [hbytes, hcanonical]
  · rw [hbytes, decode_of_encode .reference h]
  · intro other hother
    have hread := decode_canonical_of_encode hother
    rw [hcanonical] at hread
    cases hread
    rfl

/-- The largest constant, which the reference layout does not read whole. -/
theorem decode_bytes_of_encode_largest :
    encode (.loadConstant 7 67108863) = .ok 0x1FFFFFFFC3 ∧
      decode .reference (ofBytes (toBytes 0x1FFFFFFFC3)) = .ok (.loadConstant 7 16777215) := by
  have hencode : encode (.loadConstant 7 67108863) = .ok 0x1FFFFFFFC3 := by decide
  exact ⟨hencode, (decode_bytes_of_encode hencode).2.2.2.1⟩

end CodeWord

end Quartet
