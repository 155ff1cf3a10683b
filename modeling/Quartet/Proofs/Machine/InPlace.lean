import Quartet.Machine.Run
import Quartet.Proofs.Machine.Bounds

namespace Quartet

/-!
# Work in place

A run changes its machine as it goes: words are read and written in place, and after an
instruction that fails it goes on with whatever the machine has become until then.  That this is
the machine before the instruction is no matter of course.  It holds because an instruction
writes once, after all of its loads, and a write to an absent address changes nothing.

* `Machine.run_assign` — a word written in place, and what is left of a write that fails.
* `Machine.Work.Does` — whether work in place comes to an outcome.
* `Machine.Work.execute_does` — an instruction in place does what it does to a machine that is
  kept.
* `Run.execute_eq` — an instruction of a run, by its outcome.
-/

namespace Machine

/-- A word written in place: the machine takes it, or it does not have the address and is left
    as it was. -/
theorem run_assign (address : Address) (value : Word) (machine : Machine) :
    (assign address value).run machine
      = match machine.set? address value with
        | some written => (true, written)
        | none => (false, machine) := by
  cases address with
  | register index =>
    simp only [assign, set?]
    by_cases h : index.toNat < registerCount
    · simp only [dif_pos h]
      rfl
    · simp only [dif_neg h]
      rfl
  | memory index =>
    simp only [assign, set?]
    by_cases h : index.toNat < memorySize
    · simp only [dif_pos h]
      rfl
    · simp only [dif_neg h]
      rfl

namespace Work

/-! ### Piece by piece -/

/-- Work goes on with the machine that the work before it leaves, unless that has failed. -/
theorem on_bind {α β : Type} (work : Work α) (next : α → Work β) (machine : Machine) :
    (work >>= next).on machine
      = match work.on machine with
        | (.ok value, after) => (next value).on after
        | (.error error, after) => (.error error, after) := by
  rw [on, ExceptT.run_bind, StateT.run_bind]
  show _ = match work.run.run machine with
        | (.ok value, after) => (next value).on after
        | (.error error, after) => (.error error, after)
  rcases work.run.run machine with ⟨result, after⟩
  cases result <;> rfl

theorem on_get (machine : Machine) : (get : Work Machine).on machine = (.ok machine, machine) := rfl

/-- What cannot fail gives what it gives. -/
theorem on_lift {α : Type} (action : StateM Machine α) (machine : Machine) :
    on (liftM action) machine = (.ok (action.run machine).1, (action.run machine).2) := rfl

/-- A load gives the word, or the error, and leaves the machine as it was. -/
theorem on_load (instruction : Instruction) (address : Address) (machine : Machine) :
    (load instruction address).on machine = (machine.load instruction address, machine) := by
  rw [load, on_bind, on_get, Machine.load]
  dsimp only
  cases machine.get? address <;> rfl

/-! ### Outcomes -/

/-- Whether work in place comes to an outcome on a machine: it leaves the machine of the outcome,
    or fails with the error of the outcome and leaves the machine as it was. -/
def Does (work : Work Unit) (machine : Machine) (outcome : Except OutOfBounds Machine) : Prop :=
  work.on machine
    = match outcome with
      | .ok after => (.ok (), after)
      | .error error => (.error error, machine)

theorem does_store (instruction : Instruction) (address : Address) (value : Word)
    (machine : Machine) :
    (store instruction address value).Does machine (machine.store instruction address value) := by
  unfold Does
  rw [store, on_bind, on_lift, run_assign, Machine.store]
  cases machine.set? address value <;> rfl

theorem does_throw (error : OutOfBounds) (machine : Machine) :
    (throw error : Work Unit).Does machine (.error error) := rfl

/-- A load changes nothing, so what comes after it starts from the same machine. -/
theorem does_load_bind {instruction : Instruction} {address : Address} {machine : Machine}
    {next : Word → Work Unit} {next' : Word → Except OutOfBounds Machine}
    (h : ∀ value, (next value).Does machine (next' value)) :
    (load instruction address >>= next).Does machine
      (machine.load instruction address >>= next') := by
  unfold Does
  rw [on_bind, on_load]
  cases machine.load instruction address with
  | ok value => exact h value
  | error error => rfl

/-- An instruction in place leaves the machine after it, or the machine it has found. -/
theorem execute_does (instruction : Instruction) (machine : Machine) :
    (execute instruction).Does machine (machine.execute instruction) := by
  cases instruction with
  | loadConstant destination value => exact does_store _ _ _ _
  | memoryRead base destination =>
    refine does_load_bind fun _ => ?_
    refine does_load_bind fun pointer => ?_
    refine does_load_bind fun value => ?_
    exact does_store _ _ _ _
  | memoryWrite source offset base =>
    refine does_load_bind fun value => ?_
    refine does_load_bind fun pointer => ?_
    cases (cellAt pointer).add? offset.toUInt64 with
    | some target => exact does_store _ _ _ _
    | none => exact does_throw _ _
  | bitwiseOr destination address source =>
    refine does_load_bind fun _ => ?_
    refine does_load_bind fun left => ?_
    refine does_load_bind fun right => ?_
    exact does_store _ _ _ _

theorem on_execute_of_ok {instruction : Instruction} {machine after : Machine}
    (h : machine.execute instruction = .ok after) :
    (execute instruction).on machine = (.ok (), after) := by
  have hdoes := execute_does instruction machine
  rw [h] at hdoes
  exact hdoes

theorem on_execute_of_error {instruction : Instruction} {machine : Machine} {error : OutOfBounds}
    (h : machine.execute instruction = .error error) :
    (execute instruction).on machine = (.error error, machine) := by
  have hdoes := execute_does instruction machine
  rw [h] at hdoes
  exact hdoes

/-- An instruction succeeds in place exactly if it succeeds on a machine that is kept, and leaves
    the same machine. -/
theorem on_eq_ok_iff (machine after : Machine) (instruction : Instruction) :
    (execute instruction).on machine = (.ok (), after) ↔
      machine.execute instruction = .ok after := by
  cases h : machine.execute instruction with
  | ok later => simp [on_execute_of_ok h]
  | error error => simp [on_execute_of_error h]

/-- An instruction fails in place exactly if it fails on a machine that is kept, and with the
    same error. -/
theorem on_eq_error_iff (machine : Machine) (instruction : Instruction) (error : OutOfBounds) :
    ((execute instruction).on machine).1 = .error error ↔
      machine.execute instruction = .error error := by
  cases h : machine.execute instruction with
  | ok after => simp [on_execute_of_ok h]
  | error reason => simp [on_execute_of_error h]

end Work

end Machine

/-- An instruction of a run is counted or recorded as out of bounds, and in this case the machine
    is the one before it. -/
theorem Run.execute_eq (run : Run) (index : Nat) (instruction : Instruction) :
    run.execute index instruction
      = match run.machine.execute instruction with
        | .ok after => { run with machine := after, executed := run.executed + 1 }
        | .error error => run.fault index (.execution error) := by
  cases h : run.machine.execute instruction with
  | ok after => rw [Run.execute, Machine.Work.on_execute_of_ok h]
  | error error =>
    rw [Run.execute, Machine.Work.on_execute_of_error h]

end Quartet
