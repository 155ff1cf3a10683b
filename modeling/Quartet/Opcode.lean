namespace Quartet

/-!
# Opcodes

The machine knows four operations.  Each has a tag byte, which stands in the low bits of its
code words, and a mnemonic, which starts its statements in assembly text.

* `Opcode.tag`, `Opcode.ofTag?` — the tag byte and its inverse.
* `Opcode.mnemonic`, `Opcode.ofMnemonic?` — the assembly word and its inverse.
* `Opcode.tokenCount` — how many tokens follow the mnemonic in a statement.
-/

/-- The four operations of the machine. -/
inductive Opcode where
  | loadConstant
  | memoryRead
  | memoryWrite
  | bitwiseOr
deriving DecidableEq

namespace Opcode

/-- Every opcode, once. -/
def all : List Opcode := [loadConstant, memoryRead, memoryWrite, bitwiseOr]

/-- The byte that marks an opcode's code words. -/
def tag : Opcode → UInt8
  | loadConstant => 195
  | memoryRead => 83
  | memoryWrite => 53
  | bitwiseOr => 74

/-- The name used in messages. -/
def name : Opcode → String
  | loadConstant => "LOAD_CONSTANT"
  | memoryRead => "MEMORY_READ"
  | memoryWrite => "MEMORY_WRITE"
  | bitwiseOr => "BITWISE_OR"

/-- The word that starts a statement; it differs from the name only for `OR`. -/
def mnemonic : Opcode → String
  | loadConstant => "LOAD_CONSTANT"
  | memoryRead => "MEMORY_READ"
  | memoryWrite => "MEMORY_WRITE"
  | bitwiseOr => "OR"

/-- The number of blank-separated tokens that follow the mnemonic. -/
def tokenCount : Opcode → Nat
  | loadConstant | memoryRead => 2
  | memoryWrite | bitwiseOr => 4

/-- The opcode with a given tag byte. -/
def ofTag? (tag : UInt8) : Option Opcode := all.find? (·.tag == tag)

/-- The opcode with a given mnemonic, letter for letter. -/
def ofMnemonic? (text : String) : Option Opcode := all.find? (·.mnemonic == text)

@[simp] theorem ofTag?_tag (opcode : Opcode) : ofTag? opcode.tag = some opcode := by
  cases opcode <;> decide

@[simp] theorem ofMnemonic?_mnemonic (opcode : Opcode) :
    ofMnemonic? opcode.mnemonic = some opcode := by
  cases opcode <;> decide

/-- No tag byte but an opcode's own reads as that opcode. -/
theorem tag_of_ofTag? {byte : UInt8} {opcode : Opcode} (h : ofTag? byte = some opcode) :
    opcode.tag = byte := by
  simpa using List.find?_some h

/-- No text but an opcode's own mnemonic reads as that opcode. -/
theorem mnemonic_of_ofMnemonic? {text : String} {opcode : Opcode}
    (h : ofMnemonic? text = some opcode) : opcode.mnemonic = text := by
  simpa using List.find?_some h

end Opcode

end Quartet
