import Quartet.CommandLine
import Quartet.FileTask
import Quartet.Log.Line

namespace Quartet

/-!
# The program

The program understands its arguments, does the file task they ask for, and tells the result
by its exit status and its two output streams.

* `Program.run` — all of that.
* `Program.Outcome` — what it leaves behind.
-/

namespace Program

/-- What the program leaves behind. -/
structure Outcome where
  /-- The exit status: 0 for success, 1 for a failed task, 2 for arguments not understood. -/
  status : Nat
  /-- What is written to standard output. -/
  stdout : String
  /-- What is written to standard error. -/
  stderr : String
  /-- The disk afterwards. -/
  disk : Disk

/-- How the program is called. -/
def usage : String :=
  "Assembler and interpreter for a four-opcode, 48 bit instruction set\n\n" ++
    "Usage: quartet assemble <INPUT> <OUTPUT> <LOG>\n" ++
    "       quartet interpret [-v|--verbose] [--layout <reference|canonical>] " ++
    "<BINARY> <RESULT> <START> <END>\n"

/-- The report of a failed task: its error, and what lies behind it. -/
def failureReport (error : FileError) : String :=
  s!"Error: {error.message}\n" ++
    match error.causeMessage? with
    | some cause => s!"\nCaused by:\n    {cause}\n"
    | none => ""

/-- The outcome of a task: `told` are events after the task's own and `done` is the last line
    of output, both in case of success. -/
def conclude {α : Type} (filter : Log.Filter) (outcome : FileTask.Outcome α)
    (told : α → List Event) (done : α → String) : Outcome :=
  let log := Log.text filter outcome.events
  match outcome.result with
  | .ok value =>
    ⟨0, outcome.printed ++ done value, log ++ Log.text filter (told value), outcome.disk⟩
  | .error error => ⟨1, outcome.printed, log ++ failureReport error, outcome.disk⟩

/-- The line that ends a successful assembly. -/
def assembledLine (output : String) (sizes : FileTask.Sizes) : String :=
  s!"Assembled {sizes.instructions} instructions ({sizes.bytes} bytes) into {output}\n"

/-- The line that ends a successful run. -/
def executedLine (result : String) (window : MemoryWindow) (run : Run) : String :=
  s!"Executed {run.executed} of {run.words} code words; " ++
    s!"memory [{window.first}, {window.last}] written to {result}\n"

/-- What is told after a successful run: how many words were left out, if any were. -/
def skippedEvents (run : Run) : List Event :=
  if run.faults.isEmpty then [] else [.wordsSkipped run.faults.size]

/-- Does what a command asks for. -/
def perform (filter : Log.Filter) (disk : Disk) : Command → Outcome
  | .assemble input output log =>
    conclude filter (FileTask.assemble disk input output log) (fun _ => []) (assembledLine output)
  | .interpret binary result window options =>
    conclude filter (FileTask.interpret disk binary result window options) skippedEvents
      (executedLine result window)

/-- Runs the program: `setting` is the text of the filter, if one is set. -/
def run (setting : Option String) (arguments : List String) (disk : Disk) : Outcome :=
  match Request.ofArguments arguments with
  | .run command => perform (Log.Filter.ofSetting setting) disk command
  | .help => ⟨0, usage, "", disk⟩
  | .misuse => ⟨2, "", usage, disk⟩

end Program

end Quartet
