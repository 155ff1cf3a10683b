import Quartet.Opcode

namespace Quartet

/-!
# Instructions

An instruction is an opcode together with its operands, each a 32 bit word.

* `Instruction.fields`, `Instruction.ofFields?` — the operands in the order in which a code
  word holds them, and the instruction rebuilt from them.
* `Instruction.text` — the statement that names the instruction in assembly text.
* `Instruction.summary` — the operands by field letter, for messages.
-/

/-- The content of a register, a memory cell or an operand. -/
abbrev Word := UInt32

/-- An operation with its operands; their order here is that of the fields B, C and D. -/
inductive Instruction where
  /-- Put `value` into the register `destination`. -/
  | loadConstant (destination value : Word)
  /-- Put the memory cell that register `base` points at into the register `destination`. -/
  | memoryRead (base destination : Word)
  /-- Put register `source` into the memory cell `offset` past the one `base` points at. -/
  | memoryWrite (source offset base : Word)
  /-- Put the union of register `source` and the memory cell `address` into `destination`. -/
  | bitwiseOr (destination address source : Word)
deriving DecidableEq

namespace Instruction

/-- The operation an instruction performs. -/
def opcode : Instruction → Opcode
  | loadConstant .. => .loadConstant
  | memoryRead .. => .memoryRead
  | memoryWrite .. => .memoryWrite
  | bitwiseOr .. => .bitwiseOr

/-- The operands in field order. -/
def fields : Instruction → List Word
  | loadConstant destination value => [destination, value]
  | memoryRead base destination => [base, destination]
  | memoryWrite source offset base => [source, offset, base]
  | bitwiseOr destination address source => [destination, address, source]

/-- The instruction with the given operands, if there are as many as the opcode takes. -/
def ofFields? : Opcode → List Word → Option Instruction
  | .loadConstant, [destination, value] => some (loadConstant destination value)
  | .memoryRead, [base, destination] => some (memoryRead base destination)
  | .memoryWrite, [source, offset, base] => some (memoryWrite source offset base)
  | .bitwiseOr, [destination, address, source] => some (bitwiseOr destination address source)
  | _, _ => none

/-- The statement that names an instruction in assembly text. -/
def text (instruction : Instruction) : String :=
  let mnemonic := instruction.opcode.mnemonic
  match instruction with
  | loadConstant destination value => s!"{mnemonic} R{destination}, #{value}"
  | memoryRead base destination => s!"{mnemonic} R{destination}, [R{base}]"
  | memoryWrite source offset base => s!"{mnemonic} [R{base} + {offset}], R{source}"
  | bitwiseOr destination address source =>
    s!"{mnemonic} R{destination}, [{address}] | R{source}"

/-- The letters of the operand fields, in order. -/
def fieldLetters : List Char := ['B', 'C', 'D']

/-- The operands as `B=1, C=2`, for messages. -/
def summary (instruction : Instruction) : String :=
  ", ".intercalate <|
    fieldLetters.zipWith (fun letter value => s!"{letter}={value}") instruction.fields

@[simp] theorem ofFields?_fields (instruction : Instruction) :
    ofFields? instruction.opcode instruction.fields = some instruction := by
  cases instruction <;> rfl

/-- Only an instruction's own operands give it back. -/
theorem of_ofFields? {opcode : Opcode} {values : List Word} {instruction : Instruction}
    (h : ofFields? opcode values = some instruction) :
    instruction.opcode = opcode ∧ instruction.fields = values := by
  unfold ofFields? at h
  split at h <;> simp_all <;> subst h <;> exact ⟨rfl, rfl⟩

end Instruction

end Quartet
