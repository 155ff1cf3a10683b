import Quartet.Proofs.Assembly.Commands
import Quartet.Proofs.CodeWord.Reading
import Quartet.Proofs.Report.Lines
import Quartet.Proofs.Run.Faultless

namespace Quartet

/-!
# Records of the log

The log of an assembly is a document with a record for each instruction.  Its records and the code
words of the assembly are made by different ways from the same instructions, and say the same.

* `Report.Record.Describes` — a record that says what a code word says.
* `Assembly.bytesAt_code`, `Assembly.describes_of_getElem?` — the bytes of an assembly word by
  word, and the records that describe them.
* `Assembly.length_code_le_log` — the log is at least as long as the code.
-/

namespace Report

/-! ### Lengths -/

/-- A record takes more bytes than a code word. -/
theorem wordBytes_le_text (record : Record) : wordBytes ≤ record.text.utf8ByteSize := by
  -- the words in front of the mnemonic are long enough by themselves
  have hstart : (toString "- type: ").utf8ByteSize = 8 := rfl
  rw [Record.text, Record.lines, ofLines_append, ofLines_cons]
  simp only [String.utf8ByteSize_append, hstart, wordBytes]
  omega

/-- The document of records takes at least as many bytes as code words for them would. -/
theorem length_le_document (records : List Record) :
    wordBytes * records.length ≤ (document records).utf8ByteSize := by
  have hjoin : wordBytes * records.length
      ≤ (String.join (records.map Record.text)).utf8ByteSize := by
    induction records with
    | nil => exact Nat.zero_le _
    | cons first rest ih =>
      have hfirst := wordBytes_le_text first
      rw [List.map_cons, String.join_cons, String.utf8ByteSize_append, List.length_cons,
        Nat.mul_succ]
      omega
  cases records with
  | nil => exact Nat.zero_le _
  | cons first rest => exact hjoin

namespace Record

/-! ### Code words -/

/-- Whether a record says what the six bytes of a code word say to the canonical layout: it has
    the mnemonic and the tag of the word's opcode, and the word's values for its fields, so that a
    third one is missing exactly if the word has none. -/
def Describes (record : Record) (bytes : List UInt8) : Prop :=
  ∃ opcode values,
    CodeWord.decodeFields .canonical (CodeWord.ofBytes bytes) = .ok (opcode, values) ∧
      record.mnemonic = opcode.mnemonic ∧ record.tag = opcode.tag ∧
      bytes.head? = some record.tag ∧
      values = record.first :: record.second :: record.third?.toList

/-- A record has the operands of its instruction. -/
theorem fields_eq (instruction : Instruction) :
    let record := ofInstruction instruction
    instruction.fields = record.first :: record.second :: record.third?.toList := by
  cases instruction <;> rfl

/-- The record of an instruction describes the word that the instruction is written as. -/
theorem describes_of_encode {instruction : Instruction} {word : CodeWord}
    (h : CodeWord.encode instruction = .ok word) :
    (ofInstruction instruction).Describes (CodeWord.toBytes word) := by
  have hword := CodeWord.ofBytes_toBytes (CodeWord.toNat_lt_of_encode h)
  have htag := CodeWord.tagByte_of_encode h
  have hopcode : CodeWord.opcode word = .ok instruction.opcode := by
    rw [CodeWord.opcode, htag, Opcode.ofTag?_tag]
  have hbyte : word.toUInt8 = instruction.opcode.tag := by
    apply UInt8.toNat_inj.mp
    rw [UInt64.toNat_toUInt8, ← htag, CodeWord.toNat_tagByte]
  -- the tag is read twice, as the lowest bits of the word and as its first byte
  refine ⟨instruction.opcode, instruction.fields, ?_, rfl, rfl, ?_, fields_eq instruction⟩
  · rw [hword, CodeWord.decodeFields, hopcode, ok_bind, CodeWord.operands_of_encode h]
    rfl
  · exact congrArg some hbyte

end Record

end Report

namespace Assembly

/-! ### Whole assemblies -/

theorem length_code (assembly : Assembly) :
    assembly.code.length = wordBytes * assembly.entries.length := by
  unfold code
  induction assembly.entries with
  | nil => rfl
  | cons entry rest ih =>
    rw [List.flatMap_cons, List.length_append, CodeWord.length_toBytes, ih, List.length_cons,
      Nat.mul_succ, Nat.add_comm]

/-- The bytes of an entry's word stand at the entry's position. -/
theorem bytesAt_code {assembly : Assembly} {index : Nat} {entry : Entry}
    (h : assembly.entries[index]? = some entry) :
    CodeWord.bytesAt assembly.code index = CodeWord.toBytes entry.word := by
  unfold code
  generalize assembly.entries = entries at h
  induction entries generalizing index with
  | nil => cases h
  | cons first rest ih =>
    rw [List.flatMap_cons]
    cases index with
    | zero =>
      obtain rfl : first = entry := Option.some.inj h
      exact CodeWord.bytesAt_zero (CodeWord.length_toBytes _) _
    | succ index =>
      rw [CodeWord.bytesAt_succ (CodeWord.length_toBytes _)]
      exact ih h

/-- The log takes at least as many bytes as the code. -/
theorem length_code_le_log (assembly : Assembly) :
    assembly.code.length ≤ (Report.log assembly.instructions).utf8ByteSize := by
  have hle := Report.length_le_document
    (assembly.instructions.map Report.Record.ofInstruction)
  rw [List.length_map, instructions, List.length_map] at hle
  rw [length_code, Report.log_eq_document]
  exact hle

/-- The record at each position describes the word at this position. -/
theorem describes_of_getElem? {text : String} {index : Nat} {record : Report.Record}
    (h : ((ofText text).instructions.map Report.Record.ofInstruction)[index]? = some record) :
    record.Describes (CodeWord.bytesAt (ofText text).code index) := by
  rw [instructions, List.map_map, List.getElem?_map, Option.map_eq_some_iff] at h
  obtain ⟨entry, hentry, rfl⟩ := h
  rw [bytesAt_code hentry]
  exact Report.Record.describes_of_encode (encode_of_mem_entries (List.mem_of_getElem? hentry))

end Assembly

end Quartet
