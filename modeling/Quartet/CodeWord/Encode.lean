import Quartet.Layout

namespace Quartet

/-!
# Writing code words

An instruction becomes a code word by putting its opcode's tag and its operands into the
fields of the canonical layout.  An operand too large for its field is refused, never cut.

* `CodeWord.encodeFields` — the word of an opcode with a list of operands.
* `CodeWord.encode` — the word of an instruction.
* `EncodeError` — why there is none.
-/

/-- Why operands have no code word. -/
inductive EncodeError where
  /-- An operand needs more bits than its field has. -/
  | fieldOverflow (opcode : Opcode) (field : Char) (value : Word) (width : Nat)
  /-- There are more or fewer operands than the opcode takes. -/
  | fieldCount (opcode : Opcode) (expected found : Nat)
deriving DecidableEq

/-- The text of an encoding error. -/
def EncodeError.message : EncodeError → String
  | fieldOverflow opcode field value width =>
    s!"{opcode.name} field {field} holds {value}, which does not fit in {width} bits"
  | fieldCount opcode expected found =>
    s!"{opcode.name} takes {expected} operand fields but was given {found}"

namespace CodeWord

/-- Adds one operand to a word under construction. -/
def insertField (opcode : Opcode) (word : CodeWord) (operand : Field × Word) :
    Except EncodeError CodeWord :=
  let (field, value) := operand
  if value.toUInt64 > field.mask then
    .error (.fieldOverflow opcode field.name value field.width)
  else
    .ok (word ||| (value.toUInt64 <<< field.offset.toUInt64))

/-- The code word of an opcode with the given operands.  A wrong number of operands is
    reported before any that does not fit, and of those the first in field order. -/
def encodeFields (opcode : Opcode) (values : List Word) : Except EncodeError CodeWord :=
  let fields := Layout.canonical.fields opcode
  if values.length ≠ fields.length then
    .error (.fieldCount opcode fields.length values.length)
  else
    (fields.zip values).foldlM (insertField opcode) opcode.tag.toUInt64

/-- The code word of an instruction. -/
def encode (instruction : Instruction) : Except EncodeError CodeWord :=
  encodeFields instruction.opcode instruction.fields

end CodeWord

end Quartet
