import Quartet.Proofs.Machine.Effect
import Quartet.Proofs.Machine.InPlace
import Quartet.Proofs.Run.Program

namespace Quartet

/-!
# The history of a machine

A machine changes in no other way than by writes, whatever is done to it: streams are run,
instructions are executed, words are set.  The writes that succeed, one after the other, are its
history.  Replaying them gives the machine, and the last of them is the one it remembers.

* `Machine.Operation`, `Machine.performAll` — what can be done to a machine.
* `Machine.write?`, `Machine.history` — the writes that succeed.
* `Machine.replay`, `Machine.performAll_eq_replay` — the machine as its history makes it.
* `Machine.performAll_zero` — the address that a machine remembers.
-/

/-- The instructions of a stream: the words that can be read, in order. -/
def CodeWord.instructions (layout : Layout) (code : List UInt8) : List Instruction :=
  (ofStream code).filterMap fun piece => (piece >>= decode layout).toOption

namespace Machine

/-! ### Operations -/

/-- Something that is done to a machine. -/
inductive Operation where
  | run (options : RunOptions) (code : List UInt8)
  | execute (instruction : Instruction)
  | set (address : Address) (value : Word)
deriving DecidableEq

/-- The machine as an operation leaves it.  Every operation works in place, so this is its state
    at the end whether the operation succeeds or fails. -/
def perform (machine : Machine) : Operation → Machine
  | .run options code => (machine.run options code).machine
  | .execute instruction => ((Work.execute instruction).on machine).2
  | .set address value => ((assign address value).run machine).2

/-- The machine after operations, one after the other. -/
def performAll (machine : Machine) (operations : List Operation) : Machine :=
  operations.foldl perform machine

/-! ### Writes -/

/-- An address and the word that is written there. -/
abbrev Write := Address × Word

/-- The write of an instruction, if the machine has all that is read and the address that is
    written. -/
def write? (machine : Machine) (instruction : Instruction) : Option Write :=
  let wanted : Option Write :=
    match instruction with
    | .loadConstant destination value => some (registerAt destination, value)
    | .memoryRead base destination => do
      let pointer ← machine.get? (registerAt base)
      let value ← machine.get? (cellAt pointer)
      return (registerAt destination, value)
    | .memoryWrite source offset base => do
      let value ← machine.get? (registerAt source)
      let pointer ← machine.get? (registerAt base)
      return (.memory (pointer.toUInt64 + offset.toUInt64), value)
    | .bitwiseOr destination address source => do
      let left ← machine.get? (registerAt source)
      let right ← machine.get? (cellAt address)
      return (registerAt destination, left ||| right)
  wanted.filter (·.1.InRange)

/-- The writes of instructions that are executed one after the other. -/
def writesAll (machine : Machine) : List Instruction → List Write
  | [] => []
  | instruction :: rest =>
    (machine.write? instruction).toList ++ (machine.attempt instruction).1.writesAll rest

/-- The writes of an operation, in order. -/
def writes (machine : Machine) : Operation → List Write
  | .run options code => machine.writesAll (CodeWord.instructions options.layout code)
  | .execute instruction => (machine.write? instruction).toList
  | .set address value => if address.InRange then [(address, value)] else []

/-- The writes of operations that are performed one after the other. -/
def history (machine : Machine) : List Operation → List Write
  | [] => []
  | operation :: rest => machine.writes operation ++ (machine.perform operation).history rest

/-- A word can be set at the addresses that are in range. -/
theorem exists_set?_iff (machine : Machine) (address : Address) (value : Word) :
    (∃ after, machine.set? address value = some after) ↔ address.InRange := by
  cases address with
  | register index => simp [set?, Address.InRange]
  | memory index => simp [set?, Address.InRange]

theorem set?_eq_none_of_not_inRange (machine : Machine) {address : Address} (value : Word)
    (h : ¬ address.InRange) : machine.set? address value = none := by
  cases hset : machine.set? address value with
  | none => rfl
  | some after => exact absurd ((exists_set?_iff _ _ _).mp ⟨after, hset⟩) h

/-- The write of an instruction is the one that follows from what it reads, if it is in range. -/
theorem write?_eq_some_iff (machine : Machine) (instruction : Instruction) (address : Address)
    (value : Word) :
    machine.write? instruction = some (address, value) ↔
      machine.Writes instruction address value ∧ address.InRange := by
  unfold write?
  rw [Option.filter_eq_some_iff, decide_eq_true_eq]
  refine and_congr_left fun _ => ⟨fun h => ?_, fun h => ?_⟩
  · cases instruction with
    | loadConstant destination constant =>
      cases h
      exact .loadConstant
    | memoryRead base destination =>
      obtain ⟨pointer, hpointer, h⟩ := Option.bind_eq_some_iff.mp h
      obtain ⟨word, hword, h⟩ := Option.bind_eq_some_iff.mp h
      cases h
      exact .memoryRead hpointer hword
    | memoryWrite source offset base =>
      obtain ⟨word, hword, h⟩ := Option.bind_eq_some_iff.mp h
      obtain ⟨pointer, hpointer, h⟩ := Option.bind_eq_some_iff.mp h
      cases h
      exact .memoryWrite hword hpointer
    | bitwiseOr destination source register =>
      obtain ⟨left, hleft, h⟩ := Option.bind_eq_some_iff.mp h
      obtain ⟨right, hright, h⟩ := Option.bind_eq_some_iff.mp h
      cases h
      exact .bitwiseOr hleft hright
  · cases h with
    | loadConstant => rfl
    | memoryRead hpointer hvalue => simp [hpointer, hvalue]
    | memoryWrite hvalue hpointer => simp [hpointer, hvalue]
    | bitwiseOr hleft hright => simp [hleft, hright]

/-- An instruction that succeeds makes its write. -/
theorem write?_of_ok {machine after : Machine} {instruction : Instruction}
    (h : machine.execute instruction = .ok after) :
    ∃ address value, machine.write? instruction = some (address, value) ∧
      machine.set? address value = some after := by
  obtain ⟨address, value, hwrites, hset⟩ := (execute_eq_ok_iff _ _ _).mp h
  have hrange := (exists_set?_iff _ _ _).mp ⟨after, hset⟩
  exact ⟨address, value, (write?_eq_some_iff _ _ _ _).mpr ⟨hwrites, hrange⟩, hset⟩

/-- An instruction fails exactly if it has no write. -/
theorem write?_eq_none_iff (machine : Machine) (instruction : Instruction) :
    machine.write? instruction = none ↔ ∃ error, machine.execute instruction = .error error := by
  constructor
  · intro hnone
    cases hexecute : machine.execute instruction with
    | error error => exact ⟨error, rfl⟩
    | ok after =>
      obtain ⟨address, value, hwrite, -⟩ := write?_of_ok hexecute
      rw [hnone] at hwrite
      cases hwrite
  · rintro ⟨error, herror⟩
    cases hwrite : machine.write? instruction with
    | none => rfl
    | some write =>
      -- an instruction that has a write would succeed
      obtain ⟨hwrites, hrange⟩ := (write?_eq_some_iff _ _ _ _).mp hwrite
      obtain ⟨after, hset⟩ := (exists_set?_iff machine _ write.2).mpr hrange
      rw [(execute_eq_ok_iff _ _ _).mpr ⟨_, _, hwrites, hset⟩] at herror
      cases herror

/-! ### Replaying -/

/-- The machine after writes, one after the other. -/
def replay (machine : Machine) (writes : List Write) : Machine :=
  writes.foldl (fun machine write => (machine.set? write.1 write.2).getD machine) machine

theorem replay_append (machine : Machine) (first second : List Write) :
    machine.replay (first ++ second) = (machine.replay first).replay second :=
  List.foldl_append

/-- Replaying the write of an instruction comes to the same as attempting the instruction. -/
theorem attempt_eq_replay (machine : Machine) (instruction : Instruction) :
    (machine.attempt instruction).1 = machine.replay (machine.write? instruction).toList := by
  rcases attempt_cases machine instruction with ⟨after, hexecute, hattempt⟩ |
    ⟨error, hexecute, hattempt⟩
  · obtain ⟨address, value, hwrite, hset⟩ := write?_of_ok hexecute
    rw [hattempt, hwrite]
    simp [replay, hset]
  · rw [hattempt, (write?_eq_none_iff _ _).mpr ⟨error, hexecute⟩]
    rfl

theorem executeAll_eq_replay (machine : Machine) (program : List Instruction) :
    machine.executeAll program = machine.replay (machine.writesAll program) := by
  induction program generalizing machine with
  | nil => rfl
  | cons instruction rest ih =>
    rw [writesAll, replay_append, ← attempt_eq_replay, ← ih]
    rfl

/-- A run executes the instructions of its stream. -/
theorem machine_run_eq_executeAll (machine : Machine) (options : RunOptions)
    (code : List UInt8) :
    (machine.run options code).machine
      = machine.executeAll (CodeWord.instructions options.layout code) := by
  rw [machine_run, CodeWord.instructions]
  -- the machine varies: each piece finds the one that the pieces before it leave
  induction CodeWord.ofStream code generalizing machine with
  | nil => rfl
  | cons piece rest ih =>
    rw [visitAll_cons]
    show ((machine.visit options.layout piece).1.visitAll options.layout rest).1 = _
    rw [ih]
    cases hread : piece >>= CodeWord.decode options.layout with
    | error error =>
      rw [visit_of_error machine hread, List.filterMap_cons_none (by rw [hread]; rfl)]
    | ok instruction =>
      rw [visit_of_ok machine hread, List.filterMap_cons_some (by rw [hread]; rfl)]
      rfl

/-- An operation makes its writes and changes nothing else. -/
theorem perform_eq_replay (machine : Machine) (operation : Operation) :
    machine.perform operation = machine.replay (machine.writes operation) := by
  cases operation with
  | run options code =>
    rw [writes, ← executeAll_eq_replay, ← machine_run_eq_executeAll]
    rfl
  | execute instruction =>
    rw [writes, ← attempt_eq_replay, perform]
    rcases attempt_cases machine instruction with ⟨after, hexecute, hattempt⟩ |
      ⟨error, hexecute, hattempt⟩
    · rw [Work.on_execute_of_ok hexecute, hattempt]
    · rw [Work.on_execute_of_error hexecute, hattempt]
  | set address value =>
    rw [perform, writes, run_assign]
    by_cases hrange : address.InRange
    · obtain ⟨after, hset⟩ := (exists_set?_iff machine address value).mpr hrange
      simp [replay, hrange, hset]
    · rw [if_neg hrange, set?_eq_none_of_not_inRange machine value hrange]
      rfl

/-- Operations make the writes of their history and change nothing else. -/
theorem performAll_eq_replay (machine : Machine) (operations : List Operation) :
    machine.performAll operations = machine.replay (machine.history operations) := by
  induction operations generalizing machine with
  | nil => rfl
  | cons operation rest ih =>
    rw [history, replay_append, ← perform_eq_replay, ← ih]
    rfl

/-! ### The last write -/

theorem inRange_of_mem_writesAll {machine : Machine} {program : List Instruction} {write : Write}
    (h : write ∈ machine.writesAll program) : write.1.InRange := by
  induction program generalizing machine with
  | nil => cases h
  | cons instruction rest ih =>
    rcases List.mem_append.mp h with hfirst | hrest
    · exact ((write?_eq_some_iff _ _ _ _).mp (Option.mem_toList.mp hfirst)).2
    · exact ih hrest

theorem inRange_of_mem_writes {machine : Machine} {operation : Operation} {write : Write}
    (h : write ∈ machine.writes operation) : write.1.InRange := by
  cases operation with
  | run options code => exact inRange_of_mem_writesAll h
  | execute instruction => exact ((write?_eq_some_iff _ _ _ _).mp (Option.mem_toList.mp h)).2
  | set address value =>
    rw [writes] at h
    split at h
    case isTrue hrange =>
      obtain rfl := List.mem_singleton.mp h
      exact hrange
    case isFalse => cases h

/-- Only writes that are in range make history. -/
theorem inRange_of_mem_history {machine : Machine} {operations : List Operation} {write : Write}
    (h : write ∈ machine.history operations) : write.1.InRange := by
  induction operations generalizing machine with
  | nil => cases h
  | cons operation rest ih =>
    rcases List.mem_append.mp h with hfirst | hrest
    · exact inRange_of_mem_writes hfirst
    · exact ih hrest

/-- A machine remembers the last write that is replayed, and holds its word. -/
theorem replay_concat (machine : Machine) (writes : List Write) {write : Write}
    (h : write.1.InRange) :
    (machine.replay (writes ++ [write])).lastWrite = some write.1 ∧
      (machine.replay (writes ++ [write])).get? write.1 = some write.2 := by
  obtain ⟨after, hset⟩ := (exists_set?_iff (machine.replay writes) write.1 write.2).mpr h
  have hafter : machine.replay (writes ++ [write]) = after := by
    rw [replay_append]
    show ((machine.replay writes).set? write.1 write.2).getD _ = after
    rw [hset]
    rfl
  rw [hafter]
  exact ⟨lastWrite_of_set? hset, get?_of_set? hset⟩

/-- Whatever has been done to a machine that started from zero, it is as its history makes it.  It
    has its 32 registers and 1024 cells, and it remembers an address exactly if a write has
    succeeded: that of the last one, where the word of this write still stands.  An operation
    without a write leaves the machine as it was, and setting a word or executing an instruction
    fails exactly if there is no write, in place as on a machine that is kept. -/
theorem performAll_zero (operations : List Operation) :
    let machine := zero.performAll operations
    let history := zero.history operations
    machine = zero.replay history ∧
      machine.registers.toList.length = 32 ∧ machine.memory.toList.length = 1024 ∧
      (machine.lastWrite = none ↔ history = []) ∧
      (∀ address value, history.getLast? = some (address, value) →
        machine.lastWrite = some address ∧ address.InRange ∧
          machine.get? address = some value) ∧
      (∀ operation, machine.writes operation = [] → machine.perform operation = machine) ∧
      (∀ address value,
        (machine.set? address value = none ↔ machine.writes (.set address value) = []) ∧
          (((assign address value).run machine).1 = false ↔
            machine.writes (.set address value) = [])) ∧
      ∀ instruction,
        ((∃ error, machine.execute instruction = .error error) ↔
          machine.writes (.execute instruction) = []) ∧
          ((∃ error, ((Work.execute instruction).on machine).1 = .error error) ↔
            machine.writes (.execute instruction) = []) := by
  intro machine history
  have hmachine : machine = zero.replay history := performAll_eq_replay zero operations
  -- only the last write counts, whatever the machine was before it
  have hlast : ∀ write, history.getLast? = some write →
      machine.lastWrite = some write.1 ∧ write.1.InRange ∧
        machine.get? write.1 = some write.2 := by
    intro write hwrite
    obtain ⟨before, hhistory⟩ := List.getLast?_eq_some_iff.mp hwrite
    have hrange : write.1.InRange := inRange_of_mem_history (List.mem_of_getLast? hwrite)
    obtain ⟨hremembered, hword⟩ := zero.replay_concat before hrange
    rw [hmachine, hhistory]
    exact ⟨hremembered, hrange, hword⟩
  refine ⟨hmachine, Vector.length_toList, Vector.length_toList, ⟨?_, ?_⟩,
    fun address value => hlast _, ?_, ?_, ?_⟩
  · intro hnone
    cases hwrite : history.getLast? with
    | none => exact List.getLast?_eq_none_iff.mp hwrite
    | some write =>
      rw [(hlast write hwrite).1] at hnone
      cases hnone
  · intro hnil
    rw [hmachine, hnil]
    rfl
  · intro operation hnil
    rw [perform_eq_replay, hnil]
    rfl
  · intro address value
    rw [writes]
    split
    case isTrue hrange =>
      obtain ⟨after, hset⟩ := (exists_set?_iff machine address value).mpr hrange
      simp [run_assign, hset]
    case isFalse hout => simp [run_assign, set?_eq_none_of_not_inRange machine value hout]
  · intro instruction
    rw [writes, Option.toList_eq_nil_iff, write?_eq_none_iff]
    refine ⟨Iff.rfl, exists_congr fun error => ?_⟩
    exact Work.on_eq_error_iff machine instruction error

/-- The last cell is set.  Then nothing succeeds: the cell after it is set, a register that does
    not exist is loaded, and a stream is run that ends within a word. -/
theorem performAll_zero_edge :
    let operations : List Operation :=
      [.set (.memory 1023) 7, .set (.memory 1024) 8, .execute (.loadConstant 32 9),
        .run {} [0xC3, 0xDC]]
    let machine := zero.performAll operations
    machine.lastWrite = some (.memory 1023) ∧ machine.get? (.memory 1023) = some 7 := by
  intro operations machine
  obtain ⟨-, -, -, -, hlast, -⟩ := performAll_zero operations
  obtain ⟨hremembered, -, hword⟩ := hlast (.memory 1023) 7 rfl
  exact ⟨hremembered, hword⟩

end Machine

end Quartet
