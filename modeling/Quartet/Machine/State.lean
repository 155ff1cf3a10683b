import Quartet.Address

namespace Quartet

/-!
# The machine

A machine has 32 registers and 1024 memory cells, each holding a 32 bit word, and remembers
which of them was written last.  The number of registers and cells is part of the type, so
that no operation can change it.

* `Machine.zero` — the machine every run of a file starts from.
* `Machine.get?`, `Machine.set?` — the word at an address; nothing outside the machine.
* `Machine.assign` — a word written in place.
-/

/-- The number of registers. -/
abbrev registerCount : Nat := 32

/-- The number of memory cells. -/
abbrev memorySize : Nat := 1024

/-- The state of the machine. -/
structure Machine where
  registers : Vector Word registerCount
  memory : Vector Word memorySize
  /-- The address of the last word written, if there was one. -/
  lastWrite : Option Address
deriving DecidableEq

namespace Machine

/-- The machine with every word zero and nothing written. -/
def zero : Machine := ⟨Vector.replicate _ 0, Vector.replicate _ 0, none⟩

/-- The word at an address, if the machine has it. -/
def get? (machine : Machine) : Address → Option Word
  | .register index => machine.registers[index.toNat]?
  | .memory index => machine.memory[index.toNat]?

/-- The machine with a word written at an address, if it has that address. -/
def set? (machine : Machine) (address : Address) (value : Word) : Option Machine :=
  match address with
  | .register index =>
    if h : index.toNat < registerCount then
      some { machine with
        registers := machine.registers.set index.toNat value h
        lastWrite := some address }
    else none
  | .memory index =>
    if h : index.toNat < memorySize then
      some { machine with
        memory := machine.memory.set index.toNat value h
        lastWrite := some address }
    else none

/-- Writes a word in place, and tells whether the machine has the address.  First the word is
    changed, and then the address is remembered. -/
def assign (address : Address) (value : Word) : StateM Machine Bool :=
  match address with
  | .register index =>
    if h : index.toNat < registerCount then do
      modify fun machine => { machine with registers := machine.registers.set index.toNat value h }
      modify fun machine => { machine with lastWrite := some address }
      return true
    else return false
  | .memory index =>
    if h : index.toNat < memorySize then do
      modify fun machine => { machine with memory := machine.memory.set index.toNat value h }
      modify fun machine => { machine with lastWrite := some address }
      return true
    else return false

/-- The word just written is the one found at its address. -/
theorem get?_of_set? {machine written : Machine} {address : Address} {value : Word}
    (h : machine.set? address value = some written) : written.get? address = some value := by
  unfold set? at h
  split at h <;> split at h <;> simp_all <;> subst h <;> simp_all [get?]

/-- A write leaves every other address alone. -/
theorem get?_of_set?_ne {machine written : Machine} {address other : Address} {value : Word}
    (h : machine.set? address value = some written) (hne : other ≠ address) :
    written.get? other = machine.get? other := by
  unfold set? at h
  split at h <;> split at h <;> simp only [Option.some.injEq, reduceCtorEq] at h <;> subst h
  case h_1.isTrue index hlt =>
    cases other with
    | memory _ => rfl
    | register i =>
      have hi : index.toNat ≠ i.toNat := fun heq => hne (by rw [UInt64.toNat_inj.mp heq])
      exact Vector.getElem?_set_ne hlt hi
  case h_2.isTrue index hlt =>
    cases other with
    | register _ => rfl
    | memory i =>
      have hi : index.toNat ≠ i.toNat := fun heq => hne (by rw [UInt64.toNat_inj.mp heq])
      exact Vector.getElem?_set_ne hlt hi

/-- The address just written is the one remembered. -/
theorem lastWrite_of_set? {machine written : Machine} {address : Address} {value : Word}
    (h : machine.set? address value = some written) : written.lastWrite = some address := by
  unfold set? at h
  split at h <;> split at h <;> simp_all <;> subst h <;> rfl

end Machine

end Quartet
