import Quartet.Instruction

namespace Quartet

/-!
# Reports

Two YAML documents are written, both in block style: the log of an assembly, with a record
for each instruction, and the report of a part of memory, with a record for each cell.

* `Report.log` — the log of a list of instructions.
* `Report.memory` — the report of a list of cells.
-/

namespace Report

/-- One field of a log record: its letter and, on a line of its own, its value. -/
def logField (letter : Char) (value : Word) : String :=
  s!"  {letter}:\n    value: {value}\n"

/-- The log record of an instruction: its mnemonic, its tag and its fields. -/
def logRecord (instruction : Instruction) : String :=
  s!"- type: {instruction.opcode.mnemonic}\n  A: {instruction.opcode.tag}\n" ++
    String.join (Instruction.fieldLetters.zipWith logField instruction.fields)

/-- The log of an assembly. -/
def log : List Instruction → String
  | [] => "[]\n"
  | instructions => String.join (instructions.map logRecord)

/-- The record of a memory cell. -/
def memoryRecord (cell : Nat × Word) : String :=
  s!"- ID: {cell.1}\n  VALUE: {cell.2}\n"

/-- The report of a list of memory cells, given as indices with their contents. -/
def memory : List (Nat × Word) → String
  | [] => "memory: []\n"
  | cells => "memory:\n" ++ String.join (cells.map memoryRecord)

end Report

end Quartet
