import Quartet.Report

namespace Quartet

/-!
# Reports line by line

The two documents are put together from pieces of text.  What they say is seen from their lines:
a cell of memory has two of them, and a record of the log has two and another two for each of its
operands.  An empty list has a line of its own.

* `Report.ofLines` — the text of lines, each of which ends with a line break.
* `Report.memoryLines`, `Report.memory_eq_ofLines` — the report of memory.
* `Report.Record`, `Report.document` — records, and the document that lists them.
* `Report.log_eq_document` — the log is the document of the instructions' records.
-/

namespace Report

/-- The text of lines, each of which ends with a line break. -/
def ofLines (lines : List String) : String := String.join (lines.map (· ++ "\n"))

@[simp] theorem ofLines_nil : ofLines [] = "" := rfl

@[simp] theorem ofLines_cons (line : String) (rest : List String) :
    ofLines (line :: rest) = line ++ "\n" ++ ofLines rest := String.join_cons

@[simp] theorem ofLines_append (lines rest : List String) :
    ofLines (lines ++ rest) = ofLines lines ++ ofLines rest := by
  rw [ofLines, List.map_append, String.join_append]
  rfl

theorem ofLines_flatMap {α : Type} (lines : α → List String) (values : List α) :
    ofLines (values.flatMap lines)
      = String.join (values.map fun value => ofLines (lines value)) := by
  induction values with
  | nil => rfl
  | cons value rest ih =>
    rw [List.flatMap_cons, ofLines_append, ih, List.map_cons, String.join_cons]

/-! ### Memory -/

/-- The lines of a memory cell. -/
def cellLines (cell : Nat × Word) : List String := [s!"- ID: {cell.1}", s!"  VALUE: {cell.2}"]

/-- The lines of the report of memory cells. -/
def memoryLines : List (Nat × Word) → List String
  | [] => ["memory: []"]
  | cells => "memory:" :: cells.flatMap cellLines

theorem memoryRecord_eq_ofLines (cell : Nat × Word) :
    memoryRecord cell = ofLines (cellLines cell) := by
  have hbreak : "\n  VALUE: " = "\n" ++ "  VALUE: " := by decide
  rw [memoryRecord, hbreak, cellLines, ofLines_cons, ofLines_cons, ofLines_nil, String.append_empty]
  simp only [String.append_assoc]
  rfl

/-- The report of memory cells is the text of its lines. -/
theorem memory_eq_ofLines (cells : List (Nat × Word)) :
    memory cells = ofLines (memoryLines cells) := by
  cases cells with
  | nil => rfl
  | cons cell rest =>
    have hrecord : memoryRecord = fun cell => ofLines (cellLines cell) :=
      funext memoryRecord_eq_ofLines
    rw [memoryLines, ofLines_cons, ofLines_flatMap, ← hrecord]
    · rfl
    · exact List.cons_ne_nil _ _

example : memory [(3, 10), (4, 0)] = "memory:\n- ID: 3\n  VALUE: 10\n- ID: 4\n  VALUE: 0\n" := by
  decide

/-! ### The log -/

/-- A record of the log: the mnemonic and the tag of an instruction and its operands, of which
    there are two or three. -/
structure Record where
  mnemonic : String
  tag : UInt8
  first : Word
  second : Word
  third? : Option Word
deriving DecidableEq

namespace Record

/-- The record of an instruction. -/
def ofInstruction (instruction : Instruction) : Record :=
  let (first, second, third?) :=
    match instruction with
    | .loadConstant destination value => (destination, value, none)
    | .memoryRead base destination => (base, destination, none)
    | .memoryWrite source offset base => (source, offset, some base)
    | .bitwiseOr destination address source => (destination, address, some source)
  ⟨instruction.opcode.mnemonic, instruction.opcode.tag, first, second, third?⟩

/-- The lines of a record: an operand that is missing has none. -/
def lines (record : Record) : List String :=
  [s!"- type: {record.mnemonic}",
    s!"  A: {record.tag}",
    "  B:",
    s!"    value: {record.first}",
    "  C:",
    s!"    value: {record.second}"] ++
  match record.third? with
  | none => []
  | some third => ["  D:", s!"    value: {third}"]

/-- The text of a record. -/
def text (record : Record) : String := ofLines record.lines

end Record

/-- The document that lists records. -/
def document : List Record → String
  | [] => "[]\n"
  | records => String.join (records.map Record.text)

/-- A field of a record has two lines. -/
theorem logField_eq_ofLines (letter : Char) (value : Word) :
    logField letter value = ofLines [s!"  {letter}:", s!"    value: {value}"] := by
  have hbreak : ":\n    value: " = ":" ++ ("\n" ++ "    value: ") := by decide
  rw [logField, hbreak, ofLines_cons, ofLines_cons, ofLines_nil, String.append_empty]
  simp only [String.append_assoc]
  rfl

theorem logRecord_eq_ofLines (instruction : Instruction) :
    logRecord instruction
      = ofLines [s!"- type: {instruction.opcode.mnemonic}", s!"  A: {instruction.opcode.tag}"] ++
          String.join (Instruction.fieldLetters.zipWith logField instruction.fields) := by
  have hbreak : "\n  A: " = "\n" ++ "  A: " := by decide
  rw [logRecord, hbreak, ofLines_cons, ofLines_cons, ofLines_nil, String.append_empty]
  simp only [String.append_assoc]
  rfl

/-- The text for an instruction is that of its record. -/
theorem logRecord_eq_text (instruction : Instruction) :
    logRecord instruction = (Record.ofInstruction instruction).text := by
  have hfirst : toString "  " ++ toString 'B' ++ toString ":" = "  B:" := by decide
  have hsecond : toString "  " ++ toString 'C' ++ toString ":" = "  C:" := by decide
  have hthird : toString "  " ++ toString 'D' ++ toString ":" = "  D:" := by decide
  rw [logRecord_eq_ofLines, Record.text]
  cases instruction <;>
    simp only [Record.ofInstruction, Record.lines, Instruction.fields, Instruction.fieldLetters,
      List.zipWith_cons_cons, List.zipWith_nil_right, String.join_cons, String.join_nil,
      logField_eq_ofLines, hfirst, hsecond, hthird, ← ofLines_append, String.append_empty,
      List.cons_append, List.nil_append, List.append_nil]

example : (Record.ofInstruction (.bitwiseOr 5 491 1)).text
    = "- type: OR\n  A: 74\n  B:\n    value: 5\n  C:\n    value: 491\n  D:\n    value: 1\n" := by
  decide

/-- The log of instructions is the document that lists their records. -/
theorem log_eq_document (instructions : List Instruction) :
    log instructions = document (instructions.map Record.ofInstruction) := by
  cases instructions with
  | nil => rfl
  | cons first rest =>
    have htext : logRecord = Record.text ∘ Record.ofInstruction := funext logRecord_eq_text
    show String.join ((first :: rest).map logRecord)
      = String.join (((first :: rest).map Record.ofInstruction).map Record.text)
    rw [List.map_map, htext]

end Report

end Quartet
