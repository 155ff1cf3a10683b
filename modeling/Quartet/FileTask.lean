import Quartet.Assembly.Basic
import Quartet.Disk
import Quartet.Machine.Run
import Quartet.Machine.Window
import Quartet.Report

namespace Quartet

/-!
# File tasks

The two tasks of the program, done on files: a source is assembled into a binary and a log,
and a binary is run and a window of memory reported.  The source or binary is read first, then
the files to be written are made empty, and only then does anything happen.

* `FileTask.assemble`, `FileTask.interpret` — the tasks.
* `FileTask.Outcome` — what they leave behind.
* `FileError` — why they fail.
-/

/-- Why a file task failed. -/
inductive FileError where
  | opening (path : String) (cause : DiskError)
  | writing (path : String) (cause : DiskError)
  /-- A document did not get through while it was being made. -/
  | reporting (cause : DiskError)
  /-- The source could not be assembled to its end. -/
  | assembling (error : AssemblyError)
deriving DecidableEq

namespace FileError

/-- The text of a task's error. -/
def message : FileError → String
  | opening path cause => s!"error opening {path}: {cause.message}"
  | writing path cause => s!"error writing {path}: {cause.message}"
  | reporting cause => s!"cannot serialize report: {cause.message}"
  | assembling error => error.message

/-- The text of what lies behind the error, if it has a cause of its own. -/
def causeMessage? : FileError → Option String
  | opening _ cause | writing _ cause | reporting cause => some cause.message
  | assembling error => error.causeMessage?

end FileError

namespace FileTask

/-- What a task leaves behind. -/
structure Outcome (α : Type) where
  /-- The disk after the task. -/
  disk : Disk
  /-- What was told, in order. -/
  events : List Event
  /-- What a verbose run printed. -/
  printed : String
  /-- What the task gave, or why it failed. -/
  result : Except FileError α

/-- The outcome of a task that failed before it did anything. -/
def Outcome.failed {α : Type} (disk : Disk) (error : FileError) : Outcome α :=
  ⟨disk, [], "", .error error⟩

/-- The size of the buffer between a document and its file. -/
def bufferSize : Nat := 8192

/-- Writes a document to a file.  A document that fills the buffer fails while it is being
    made, a smaller one when it is finished. -/
def writeDocument (disk : Disk) (path : String) (place : Location) (document : String) :
    Except FileError Disk :=
  match disk.write place document.toUTF8 with
  | .ok disk => .ok disk
  | .error cause =>
    if document.utf8ByteSize < bufferSize then .error (.writing path cause)
    else .error (.reporting cause)

/-- The sizes of an assembled file. -/
structure Sizes where
  instructions : Nat
  bytes : Nat
deriving DecidableEq

/-- Assembles the text of `input` into the code words of `binary` and the records of `log`.
    When assembly stops at an error, both hold what was assembled before it. -/
def assemble (disk : Disk) (input binary log : String) : Outcome Sizes :=
  match disk.readText input with
  | .error cause => .failed disk (.opening input cause)
  | .ok text =>
    match disk.create binary with
    | .error cause => .failed disk (.opening binary cause)
    | .ok (disk, binaryPlace) =>
      match disk.create log with
      | .error cause => .failed disk (.opening log cause)
      | .ok (disk, logPlace) =>
        let assembly := Assembly.ofText text
        let code := assembly.code
        match disk.write binaryPlace ⟨code.toArray⟩ with
        | .error cause => ⟨disk, assembly.events, "", .error (.writing binary cause)⟩
        | .ok disk =>
          match writeDocument disk log logPlace (Report.log assembly.instructions) with
          | .error error => ⟨disk, assembly.events, "", .error error⟩
          | .ok disk =>
            let count := assembly.entries.length
            match assembly.error with
            | some error =>
              ⟨disk, assembly.events ++ [.fileStopped input error count], "",
                .error (.assembling error)⟩
            | none =>
              ⟨disk, assembly.events ++ [.fileAssembled input count code.length], "",
                .ok ⟨count, code.length⟩⟩

/-- Runs the code words of `binary` on a zeroed machine and writes the contents of a window of
    its memory to `result`.  No binary makes the task fail. -/
def interpret (disk : Disk) (binary result : String) (window : MemoryWindow)
    (options : RunOptions) : Outcome Run :=
  match disk.read binary with
  | .error cause => .failed disk (.opening binary cause)
  | .ok code =>
    match disk.create result with
    | .error cause => .failed disk (.opening result cause)
    | .ok (disk, place) =>
      let run := Machine.zero.run options code.data.toList
      let document := Report.memory (run.machine.window window)
      match writeDocument disk result place document with
      | .error error => ⟨disk, run.events.toList, run.traceText, .error error⟩
      | .ok disk => ⟨disk, run.events.toList, run.traceText, .ok run⟩

end FileTask

end Quartet
