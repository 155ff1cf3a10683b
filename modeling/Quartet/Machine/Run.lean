import Quartet.CodeWord.Stream
import Quartet.Event
import Quartet.Machine.Execute
import Quartet.Machine.Table

namespace Quartet

/-!
# Runs

A run takes the words of a stream in turn.  A word that cannot be decoded, or whose
instruction is out of bounds, is reported and skipped; the next word is always the next six
bytes.

* `Run` — what a run has done so far.
* `Run.step` — one word.
* `Machine.run` — a whole stream.
* `Run.traceText` — what a verbose run prints.
-/

/-- The choices a run leaves open. -/
structure RunOptions where
  /-- The table of operand fields that words are read with. -/
  layout : Layout := .reference
  /-- Whether the machine is shown after each instruction. -/
  verbose : Bool := false
deriving DecidableEq

/-- An instruction and the machine after it. -/
structure Snapshot where
  instruction : Instruction
  machine : Machine
deriving DecidableEq

/-- A snapshot as it is printed: the instruction after its opcode's name, and the table. -/
def Snapshot.text (snapshot : Snapshot) : String :=
  s!"{snapshot.instruction.opcode.name}: {snapshot.instruction.text}\n{snapshot.machine.table}\n"

/-- What a run has done. -/
structure Run where
  /-- The machine as the run leaves it. -/
  machine : Machine
  /-- The number of words taken from the stream, a fragment at its end included. -/
  words : Nat
  /-- The number of instructions that were executed. -/
  executed : Nat
  /-- The faulty words, in order. -/
  faults : Array Fault
  /-- What was told, in order. -/
  events : Array Event
  /-- The machine after each decoded instruction, in order, if the run is verbose. -/
  trace : Array Snapshot
deriving DecidableEq

namespace Run

/-- The run that has done nothing yet. -/
def start (machine : Machine) : Run := ⟨machine, 0, 0, #[], #[], #[]⟩

/-- Tells and records that the word at `index` is faulty. -/
def fault (run : Run) (index : Nat) (cause : Fault.Cause) : Run :=
  { run with
    faults := run.faults.push ⟨index, cause⟩
    events := run.events.push (.faulted ⟨index, cause⟩) }

/-- Executes an instruction in place, or records that it is out of bounds.  The run goes on with
    the machine as the instruction leaves it, be it executed or not. -/
def execute (run : Run) (index : Nat) (instruction : Instruction) : Run :=
  let (result, machine) := (Machine.Work.execute instruction).on run.machine
  let run := { run with machine := machine }
  match result with
  | .ok () => { run with executed := run.executed + 1 }
  | .error error => run.fault index (.execution error)

/-- Adds the machine after an instruction to the trace of a verbose run. -/
def record (options : RunOptions) (instruction : Instruction) (run : Run) : Run :=
  if options.verbose then { run with trace := run.trace.push ⟨instruction, run.machine⟩ }
  else run

/-- Takes one word from the stream. -/
def step (options : RunOptions) (run : Run) (word : Except DecodeError CodeWord) : Run :=
  let index := run.words
  let run := { run with words := index + 1 }
  match word >>= CodeWord.decode options.layout with
  | .error error => run.fault index (.decoding error)
  | .ok instruction =>
    let run := { run with events := run.events.push (.decoded index instruction) }
    (run.execute index instruction).record options instruction

/-- Tells that the stream has ended. -/
def finish (run : Run) : Run :=
  { run with
    events := run.events.push (.runFinished run.words run.executed run.faults.size) }

/-- What a run prints. -/
def traceText (run : Run) : String := String.join (run.trace.toList.map Snapshot.text)

end Run

/-- Runs a stream on a machine. -/
def Machine.run (machine : Machine) (options : RunOptions) (code : List UInt8) : Run :=
  ((CodeWord.ofStream code).foldl (Run.step options) (Run.start machine)).finish

end Quartet
