import Quartet.Layout

namespace Quartet

/-!
# Reading code words

A code word is read by its tag byte, which gives the opcode, and by a layout, which gives the
operand fields.

* `CodeWord.decodeFields` — the opcode and the raw operands.
* `CodeWord.decode` — the instruction.
* `CodeWord.decodeAs` — the instruction, if the word is one of a given opcode.
* `DecodeError` — why a piece of a stream is no instruction.
-/

/-- Why a piece of a stream is no instruction. -/
inductive DecodeError where
  /-- No opcode has this tag byte. -/
  | unknownOpcode (tag : UInt8)
  /-- The tag byte is not the one of the opcode asked for. -/
  | invalidOpcode (expected : Opcode) (found : UInt8)
  /-- The stream ends within a word. -/
  | truncatedWord (length : Nat)
deriving DecidableEq

/-- The text of a decoding error. -/
def DecodeError.message : DecodeError → String
  | unknownOpcode tag => s!"unknown command A={tag}"
  | invalidOpcode expected found => s!"invalid opcode for {expected.name}: {found}"
  | truncatedWord length => s!"truncated code word: {length} trailing bytes"

namespace CodeWord

/-- The tag byte of a word. -/
def tagByte (word : CodeWord) : UInt8 := (Field.tag.extract word).toUInt8

/-- The opcode a word is tagged with. -/
def opcode (word : CodeWord) : Except DecodeError Opcode :=
  match Opcode.ofTag? (tagByte word) with
  | some opcode => .ok opcode
  | none => .error (.unknownOpcode (tagByte word))

/-- The operands of a word, read as a word of the given opcode. -/
def operands (layout : Layout) (opcode : Opcode) (word : CodeWord) : List Word :=
  (layout.fields opcode).map (·.extract word)

/-- The opcode of a word and its raw operands. -/
def decodeFields (layout : Layout) (word : CodeWord) :
    Except DecodeError (Opcode × List Word) := do
  let opcode ← opcode word
  return (opcode, operands layout opcode word)

/-- The instruction of a word that is tagged with the given opcode. -/
def decodeAs (layout : Layout) (opcode : Opcode) (word : CodeWord) :
    Except DecodeError Instruction :=
  if tagByte word ≠ opcode.tag then
    .error (.invalidOpcode opcode (tagByte word))
  else
    match Instruction.ofFields? opcode (operands layout opcode word) with
    | some instruction => .ok instruction
    | none => .error (.invalidOpcode opcode (tagByte word))

/-- The instruction of a word. -/
def decode (layout : Layout) (word : CodeWord) : Except DecodeError Instruction := do
  decodeAs layout (← opcode word) word

end CodeWord

end Quartet
