import Quartet.Machine.Run
import Quartet.Proofs.CodeWord.Cutting
import Quartet.Proofs.Run.Course

namespace Quartet

/-!
# One run after another

What a run does with a word depends on the machine as it is and on nothing else that came before;
only the numbers that it gives to words go on counting.  So a stream can be interrupted after any
of its words and taken up again on the same machine.

* `Fault.after`, `Event.after` — what is reported of a word that more words come before.
* `Run.andThen` — two runs, one after the other, as one.
* `Run.foldl_step_andThen` — a run of pieces that starts where another one has come to.
* `Machine.run_append` — two streams put together.
-/

/-- A fault as it is numbered after more words. -/
def Fault.after (words : Nat) (fault : Fault) : Fault :=
  { fault with index := words + fault.index }

/-- What is told about a word as it is numbered after more words. -/
def Event.after (words : Nat) : Event → Event
  | .decoded index instruction => .decoded (words + index) instruction
  | .faulted fault => .faulted (fault.after words)
  | event => event

namespace Run

/-- A run and what another one did after it, as one run. -/
def andThen (first second : Run) : Run where
  machine := second.machine
  words := first.words + second.words
  executed := first.executed + second.executed
  faults := first.faults ++ second.faults.map (Fault.after first.words)
  events := first.events ++ second.events.map (Event.after first.words)
  trace := first.trace ++ second.trace

/-! ### One piece -/

theorem andThen_start (run : Run) : run.andThen (start run.machine) = run := by
  simp [andThen, start]

theorem fault_andThen (first second : Run) (index : Nat) (cause : Fault.Cause) :
    (first.andThen second).fault (first.words + index) cause
      = first.andThen (second.fault index cause) := by
  simp [andThen, fault, Fault.after, Event.after]

theorem record_andThen (options : RunOptions) (instruction : Instruction) (first second : Run) :
    (first.andThen second).record options instruction
      = first.andThen (second.record options instruction) := by
  unfold record
  split
  · simp [andThen]
  · rfl

theorem execute_andThen (first second : Run) (index : Nat) (instruction : Instruction) :
    (first.andThen second).execute (first.words + index) instruction
      = first.andThen (second.execute index instruction) := by
  have hmachine : (first.andThen second).machine = second.machine := rfl
  rw [execute_eq, execute_eq, hmachine]
  cases second.machine.execute instruction with
  | error error => exact fault_andThen first second index (.execution error)
  | ok after => rfl

/-- A step of two runs as one is a step of the second. -/
theorem step_andThen (options : RunOptions) (first second : Run)
    (piece : Except DecodeError CodeWord) :
    step options (first.andThen second) piece = first.andThen (step options second piece) := by
  unfold step
  cases piece >>= CodeWord.decode options.layout with
  | error error => exact fault_andThen first { second with words := second.words + 1 } _ _
  | ok instruction =>
    have htold : ({ first.andThen second with
          words := (first.andThen second).words + 1
          events := (first.andThen second).events.push
            (.decoded (first.andThen second).words instruction) } : Run)
        = first.andThen { second with
            words := second.words + 1
            events := second.events.push (.decoded second.words instruction) } := by
      simp [andThen, Event.after, Nat.add_assoc]
    dsimp only
    rw [htold, ← record_andThen, ← execute_andThen]
    rfl

/-! ### Many pieces -/

/-- What pieces are to two runs as one they are to the second. -/
theorem foldl_step_andThen (options : RunOptions) (first second : Run)
    (pieces : List (Except DecodeError CodeWord)) :
    pieces.foldl (step options) (first.andThen second)
      = first.andThen (pieces.foldl (step options) second) := by
  -- the second run varies, since each piece is another step of it
  induction pieces generalizing second with
  | nil => rfl
  | cons piece rest ih => rw [List.foldl_cons, List.foldl_cons, step_andThen, ih]

/-- Pieces that come after others are a run of their own, on the machine that those have left. -/
theorem foldl_step_append (options : RunOptions) (machine : Machine)
    (pieces others : List (Except DecodeError CodeWord)) :
    (pieces ++ others).foldl (step options) (start machine)
      = (pieces.foldl (step options) (start machine)).andThen
          (others.foldl (step options)
            (start (pieces.foldl (step options) (start machine)).machine)) := by
  rw [List.foldl_append, ← foldl_step_andThen, andThen_start]

end Run

namespace Machine

/-! ### Streams -/

/-- A stream of whole words and a stream behind it are run, up to the end that is told, as the two
    are run one after the other. -/
theorem exists_andThen_of_append (machine : Machine) (options : RunOptions) {first : List UInt8}
    (h : wordBytes ∣ first.length) (second : List UInt8) :
    ∃ earlier later : Run, machine.run options first = earlier.finish ∧
      earlier.machine.run options second = later.finish ∧
      machine.run options (first ++ second) = (earlier.andThen later).finish := by
  refine ⟨_, _, rfl, rfl, ?_⟩
  rw [run, CodeWord.ofStream_append h, Run.foldl_step_append]

/-- A stream of whole words and a stream behind it are run as the two are run one after the other
    on the same machine: the counts add up, the faults of the second are numbered after the words
    of the first, and what is shown of the second follows what is shown of the first. -/
theorem run_append (machine : Machine) (options : RunOptions) {first : List UInt8}
    (h : wordBytes ∣ first.length) (second : List UInt8) :
    let earlier := machine.run options first
    let later := earlier.machine.run options second
    let run := machine.run options (first ++ second)
    run.machine = later.machine ∧
      run.words = earlier.words + later.words ∧
      run.executed = earlier.executed + later.executed ∧
      run.faults.toList
        = earlier.faults.toList ++ later.faults.toList.map (Fault.after (first.length / 6)) ∧
      run.trace = earlier.trace ++ later.trace ∧
      run.traceText = earlier.traceText ++ later.traceText := by
  have hwords : (machine.run options first).words = first.length / 6 := by
    rw [words_run, CodeWord.length_ofStream]
    obtain ⟨count, hcount⟩ := h
    rw [hcount, wordBytes]
    omega
  obtain ⟨earlier, later, hearlier, hlater, hrun⟩ :=
    exists_andThen_of_append machine options h second
  rw [hearlier] at hwords
  -- the end that is told changes none of what is compared
  have hmachine : earlier.finish.machine = earlier.machine := rfl
  have hcount : earlier.words = first.length / 6 := hwords
  dsimp only
  rw [hearlier, hmachine, hlater, hrun, ← hcount]
  refine ⟨rfl, rfl, rfl, ?_, rfl, ?_⟩
  · simp [Run.finish, Run.andThen]
  · simp [Run.finish, Run.andThen, Run.traceText, String.join_append]

/-- The word that loads 187, and then a word that no opcode has: the second is at fault at the
    position that follows the first. -/
theorem run_append_unknown :
    let load : List UInt8 := [0xC3, 0xDC, 0x05, 0x00, 0x00, 0x00]
    let unknown : List UInt8 := [0xFF, 0x01, 0x02, 0x03, 0x04, 0x05]
    wordBytes ∣ load.length ∧
      (zero.run {} (load ++ unknown)).faults.toList
        = [⟨1, .decoding (.unknownOpcode 0xFF)⟩] ∧
      (zero.run {} (load ++ unknown)).machine.get? (.register 4) = some 187 := by
  intro load unknown
  have hwhole : wordBytes ∣ load.length := by decide
  obtain ⟨hmachine, -, -, hfaults, -⟩ := run_append zero {} hwhole unknown
  refine ⟨hwhole, ?_, ?_⟩
  · rw [hfaults]
    decide
  · rw [hmachine]
    rfl

end Machine

end Quartet
