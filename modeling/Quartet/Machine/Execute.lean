import Quartet.Machine.Fault
import Quartet.Machine.State

namespace Quartet

/-!
# Execution

An instruction reads at most three words and writes at most one.  Every address is checked
before the write, so that a failing instruction leaves no trace.  A run executes its instructions
in place; what an instruction comes to on a machine that is kept takes the same steps.

* `Machine.steps` — the steps of an instruction.
* `Machine.Work`, `Machine.Work.execute` — an instruction in place, on a machine that is changed
  as it goes.
* `Machine.execute` — the machine after an instruction, or the address it does not have.
-/

namespace Machine

/-- The register a word names. -/
def registerAt (number : Word) : Address := .register number.toUInt64

/-- The memory cell a word points at. -/
def cellAt (pointer : Word) : Address := .memory pointer.toUInt64

/-- The steps of an instruction, which `load` words, `store` one and report an `absent` address.
    Addresses are checked in the order written here. -/
def steps {m : Type → Type} [Monad m] {α : Type} (load : Address → m Word)
    (store : Address → Word → m α) (absent : Address → m α) : Instruction → m α
  | .loadConstant destination value => store (registerAt destination) value
  | .memoryRead base destination => do
    let _ ← load (registerAt destination)
    let pointer ← load (registerAt base)
    let value ← load (cellAt pointer)
    store (registerAt destination) value
  | .memoryWrite source offset base => do
    let value ← load (registerAt source)
    let pointer ← load (registerAt base)
    match (cellAt pointer).add? offset.toUInt64 with
    | some target => store target value
    | none => absent (cellAt pointer)
  | .bitwiseOr destination address source => do
    let _ ← load (registerAt destination)
    let left ← load (registerAt source)
    let right ← load (cellAt address)
    store (registerAt destination) (left ||| right)

/-! ### In place -/

/-- Work on a machine in place, which may fail.  What has been done until then stays done. -/
abbrev Work := ExceptT OutOfBounds (StateM Machine)

namespace Work

/-- What work on a machine gives, and the machine as the work leaves it. -/
def on {α : Type} (work : Work α) (machine : Machine) : Except OutOfBounds α × Machine :=
  work.run.run machine

/-- The word at an address; an instruction that needs an absent one is out of bounds. -/
def load (instruction : Instruction) (address : Address) : Work Word := do
  match (← get).get? address with
  | some value => return value
  | none => throw ⟨instruction, address⟩

/-- Writes a word; an instruction that writes to an absent address is out of bounds. -/
def store (instruction : Instruction) (address : Address) (value : Word) : Work Unit := do
  unless ← assign address value do throw ⟨instruction, address⟩

/-- Executes an instruction. -/
def execute (instruction : Instruction) : Work Unit :=
  steps (load instruction) (store instruction) (fun address => throw ⟨instruction, address⟩)
    instruction

end Work

/-! ### On a machine that is kept -/

/-- The word at an address; an instruction that needs an absent one is out of bounds. -/
def load (machine : Machine) (instruction : Instruction) (address : Address) :
    Except OutOfBounds Word :=
  match machine.get? address with
  | some value => .ok value
  | none => .error ⟨instruction, address⟩

/-- The machine with a word written; an instruction that writes to an absent address is out
    of bounds. -/
def store (machine : Machine) (instruction : Instruction) (address : Address) (value : Word) :
    Except OutOfBounds Machine :=
  match machine.set? address value with
  | some written => .ok written
  | none => .error ⟨instruction, address⟩

/-- The machine after an instruction, or the first address that is absent. -/
def execute (machine : Machine) (instruction : Instruction) : Except OutOfBounds Machine :=
  steps (machine.load instruction) (machine.store instruction)
    (fun address => .error ⟨instruction, address⟩) instruction

end Machine

end Quartet
