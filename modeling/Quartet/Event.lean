import Quartet.Assembly.Statement
import Quartet.Machine.Fault

namespace Quartet

/-!
# Events

What happens while a text is assembled, a stream is run or a file is processed is told by
events.  An event has a level, the component it comes from, a message and named details.

* `Event` — everything that is told.
* `Event.level`, `Event.origin`, `Event.message`, `Event.details` — how it is told.
-/

/-- How much an event matters, the gravest first. -/
inductive Level where
  | error
  | warn
  | info
  | debug
deriving DecidableEq

/-- The name of a level. -/
def Level.name : Level → String
  | error => "ERROR"
  | warn => "WARN"
  | info => "INFO"
  | debug => "DEBUG"

/-- The value of a detail: a number, a text to be quoted, or a text shown as it is. -/
inductive Detail where
  | number (value : Nat)
  | quoted (text : String)
  | plain (text : String)
deriving DecidableEq

/-- Something that is told while the program works. -/
inductive Event where
  /-- A token that is no mnemonic was passed over. -/
  | strayToken (token : Token)
  /-- A command was assembled. -/
  | assembled (entry : Entry)
  /-- The word at `index` was decoded and is about to be executed. -/
  | decoded (index : Nat) (instruction : Instruction)
  /-- A word was reported and skipped. -/
  | faulted (fault : Fault)
  /-- A stream was run to its end. -/
  | runFinished (words executed faults : Nat)
  /-- A file was assembled to its end. -/
  | fileAssembled (input : String) (instructions bytes : Nat)
  /-- A file was assembled up to an error. -/
  | fileStopped (input : String) (error : AssemblyError) (assembled : Nat)
  /-- A file's run left out words. -/
  | wordsSkipped (faults : Nat)
deriving DecidableEq

namespace Event

/-- How much the event matters. -/
def level : Event → Level
  | fileStopped .. => .error
  | strayToken _ | faulted _ | wordsSkipped _ => .warn
  | runFinished .. | fileAssembled .. => .info
  | assembled _ | decoded .. => .debug

/-- The path of the component that tells the event, as filter directives name it. -/
def origin : Event → String
  | strayToken _ | assembled _ => "tetrad::bytecode::assembly"
  | decoded .. | faulted _ | runFinished .. => "tetrad::vm"
  | fileAssembled .. | fileStopped .. => "tetrad::driver"
  | wordsSkipped _ => "tetrad"

/-- The event in words. -/
def message : Event → String
  | strayToken _ => "skipping token that is not a mnemonic"
  | assembled entry => entry.instruction.text
  | decoded _ instruction => instruction.text
  | faulted fault => fault.cause.message
  | runFinished .. => "run finished"
  | fileAssembled .. => "assembled"
  | fileStopped _ error _ => error.message
  | wordsSkipped _ => "some code words were skipped"

/-- The details of the event, in the order in which they are shown. -/
def details : Event → List (String × Detail)
  | strayToken token => [("line", .number token.line), ("token", .quoted token.text)]
  | assembled entry => [("line", .number entry.line), ("word", .number entry.word.toNat)]
  | decoded index _ => [("index", .number index)]
  | faulted fault => [("index", .number fault.index)]
  | runFinished words executed faults =>
    [("words", .number words), ("executed", .number executed), ("faults", .number faults)]
  | fileAssembled input instructions bytes =>
    [("input", .plain input), ("instructions", .number instructions), ("bytes", .number bytes)]
  | fileStopped input _ count =>
    [("input", .plain input), ("assembled", .number count)]
  | wordsSkipped faults => [("faults", .number faults)]

end Event

end Quartet
