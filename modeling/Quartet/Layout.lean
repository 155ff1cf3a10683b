import Quartet.Instruction

namespace Quartet

/-!
# Fields and layouts

A code word is a 48 bit number, kept in 64 bits.  A *field* is a range of its bits, and a
*layout* says, for each opcode, which fields hold the operands.

* `Field.mask`, `Field.extract` — the greatest value of a field, and the value a word holds.
* `Layout.fields` — the table of operand fields.

There are two layouts.  The *canonical* one is the one code words are written with.  The
*reference* one reads two of the fields narrower than they are written: the constant of
`LOAD_CONSTANT` with 24 bits instead of 26, and the address of `OR` with 21 instead of 27.
-/

/-- A code word; only the low 48 bits are ever stored. -/
abbrev CodeWord := UInt64

/-- The number of bytes a stored code word takes. -/
def wordBytes : Nat := 6

/-- The number of bits a stored code word has. -/
def wordBits : Nat := 48

/-- A named range of bits: `width` of them, from bit `offset` upwards. -/
structure Field where
  name : Char
  offset : Nat
  width : Nat
deriving DecidableEq

namespace Field

/-- The greatest value that fits in the field. -/
def mask (field : Field) : CodeWord := (1 <<< field.width.toUInt64) - 1

/-- The value of the field in a word, cut to 32 bits. -/
def extract (field : Field) (word : CodeWord) : Word :=
  ((word >>> field.offset.toUInt64) &&& field.mask).toUInt32

/-- The field of the opcode's tag byte, the same in every code word. -/
def tag : Field := ⟨'A', 0, 8⟩

end Field

/-- Which table of operand fields a code word is read with. -/
inductive Layout where
  /-- The narrower table that runs use unless told otherwise. -/
  | reference
  /-- The table that code words are written with. -/
  | canonical
deriving DecidableEq

namespace Layout

/-- The layout's own word, as options spell it. -/
def name : Layout → String
  | reference => "reference"
  | canonical => "canonical"

/-- The layout that an option spells. -/
def ofName? (text : String) : Option Layout :=
  [reference, canonical].find? (·.name == text)

/-- The operand fields of an opcode, in order. -/
def fields : Layout → Opcode → List Field
  | reference, .loadConstant => [⟨'B', 8, 3⟩, ⟨'C', 11, 24⟩]
  | canonical, .loadConstant => [⟨'B', 8, 3⟩, ⟨'C', 11, 26⟩]
  | _, .memoryRead => [⟨'B', 8, 3⟩, ⟨'C', 11, 3⟩]
  | _, .memoryWrite => [⟨'B', 8, 3⟩, ⟨'C', 11, 9⟩, ⟨'D', 20, 3⟩]
  | reference, .bitwiseOr => [⟨'B', 8, 3⟩, ⟨'C', 11, 21⟩, ⟨'D', 38, 3⟩]
  | canonical, .bitwiseOr => [⟨'B', 8, 3⟩, ⟨'C', 11, 27⟩, ⟨'D', 38, 3⟩]

/-- Both tables have as many fields as the opcode has operands. -/
theorem length_fields (layout : Layout) (instruction : Instruction) :
    (layout.fields instruction.opcode).length = instruction.fields.length := by
  cases layout <;> cases instruction <;> rfl

end Layout

end Quartet
