import Quartet.Machine.Execute
import Quartet.Proofs.Result

namespace Quartet

/-!
# Accesses out of bounds

An instruction fails only because of an address that the machine does not have, and the error
names that address together with the instruction.

* `Address.InRange`, `Machine.get?_eq_none_iff` — the addresses that every machine has.
* `Machine.set?_eq_none_iff` — the addresses that cannot be written are those that cannot be
  read.
* `Instruction.Touches` — the addresses that an instruction may read or write.
* `Machine.Misses`, `Machine.execute_eq_error` — what the error of an instruction says.
-/

/-- Whether a machine has a register or a cell at an address. -/
def Address.InRange : Address → Prop
  | register index => index.toNat < registerCount
  | memory index => index.toNat < memorySize

instance (address : Address) : Decidable address.InRange :=
  match address with
  | .register index => inferInstanceAs (Decidable (index.toNat < registerCount))
  | .memory index => inferInstanceAs (Decidable (index.toNat < memorySize))

namespace Instruction

/-- The registers that an instruction names. -/
def registers : Instruction → List Word
  | loadConstant destination _ => [destination]
  | memoryRead base destination => [base, destination]
  | memoryWrite source _ base => [source, base]
  | bitwiseOr destination _ source => [destination, source]

/-- Whether an instruction may read or write an address: only the registers that it names, and
    memory if it does more than load a constant. -/
def Touches (instruction : Instruction) : Address → Prop
  | .register index => ∃ number ∈ instruction.registers, index = number.toUInt64
  | .memory _ => instruction.opcode ≠ .loadConstant

end Instruction

namespace Machine

/-- Nothing can be read exactly where an address is out of range. -/
theorem get?_eq_none_iff (machine : Machine) (address : Address) :
    machine.get? address = none ↔ ¬ address.InRange := by
  cases address with
  | register index => simp [get?, Address.InRange]
  | memory index => simp [get?, Address.InRange]

/-- Nothing can be written exactly where nothing can be read. -/
theorem set?_eq_none_iff (machine : Machine) (address : Address) (value : Word) :
    machine.set? address value = none ↔ machine.get? address = none := by
  cases address with
  | register index => simp [set?, get?]
  | memory index => simp [set?, get?]

/-! ### Loads and stores -/

theorem load_eq_ok_iff (machine : Machine) (instruction : Instruction) (address : Address)
    (value : Word) :
    machine.load instruction address = .ok value ↔ machine.get? address = some value := by
  rw [load]
  cases machine.get? address <;> simp

theorem load_eq_error_iff (machine : Machine) (instruction : Instruction) (address : Address)
    (error : OutOfBounds) :
    machine.load instruction address = .error error ↔
      machine.get? address = none ∧ error = ⟨instruction, address⟩ := by
  rw [load]
  cases machine.get? address <;> simp [eq_comm]

theorem store_eq_ok_iff (machine : Machine) (instruction : Instruction) (address : Address)
    (value : Word) (written : Machine) :
    machine.store instruction address value = .ok written ↔
      machine.set? address value = some written := by
  rw [store]
  cases machine.set? address value <;> simp

theorem store_eq_error_iff (machine : Machine) (instruction : Instruction) (address : Address)
    (value : Word) (error : OutOfBounds) :
    machine.store instruction address value = .error error ↔
      machine.get? address = none ∧ error = ⟨instruction, address⟩ := by
  rw [store, ← set?_eq_none_iff machine address value]
  cases machine.set? address value <;> simp [eq_comm]

/-! ### Instructions -/

/-- The sum of two words is an index. -/
theorem add?_cellAt (pointer offset : Word) :
    (cellAt pointer).add? offset.toUInt64
      = some (.memory (pointer.toUInt64 + offset.toUInt64)) := by
  have hpointer := pointer.toNat_lt
  have hoffset := offset.toNat_lt
  -- two words have 32 bits each, an index has 64
  have hsum : pointer.toUInt64.toNat + offset.toUInt64.toNat < UInt64.size := by
    rw [UInt32.toNat_toUInt64, UInt32.toNat_toUInt64]
    show _ < 2 ^ 64
    omega
  rw [cellAt, Address.add?, Address.indexSum?, if_pos hsum, Option.map_some]

theorem touches_registerAt {instruction : Instruction} {number : Word}
    (h : number ∈ instruction.registers) : instruction.Touches (registerAt number) :=
  ⟨number, h, rfl⟩

theorem touches_memory {instruction : Instruction} {index : UInt64}
    (h : instruction.opcode ≠ .loadConstant) : instruction.Touches (.memory index) := h

/-- What the error of an instruction on a machine says: which instruction it was, and an address
    that this instruction touches and that the machine does not have. -/
structure Misses (machine : Machine) (instruction : Instruction) (error : OutOfBounds) : Prop where
  same : error.instruction = instruction
  absent : machine.get? error.address = none
  touches : instruction.Touches error.address

section

variable {machine : Machine} {instruction : Instruction} {error : OutOfBounds}

theorem misses_of_load {address : Address} (htouches : instruction.Touches address)
    (h : machine.load instruction address = .error error) : machine.Misses instruction error := by
  obtain ⟨habsent, rfl⟩ := (load_eq_error_iff _ _ _ _).mp h
  exact ⟨rfl, habsent, htouches⟩

theorem misses_of_store {address : Address} {value : Word} (htouches : instruction.Touches address)
    (h : machine.store instruction address value = .error error) :
    machine.Misses instruction error := by
  obtain ⟨habsent, rfl⟩ := (store_eq_error_iff _ _ _ _ _).mp h
  exact ⟨rfl, habsent, htouches⟩

/-- An instruction fails only where it misses an address. -/
theorem execute_eq_error (h : machine.execute instruction = .error error) :
    machine.Misses instruction error := by
  have hregister : ∀ number ∈ instruction.registers, instruction.Touches (registerAt number) :=
    fun _ => touches_registerAt
  -- each of its checks is a load or a store
  cases instruction with
  | loadConstant destination value => exact misses_of_store (hregister _ (.head _)) h
  | memoryRead base destination =>
    have hcell : ∀ index, (Instruction.memoryRead base destination).Touches (.memory index) :=
      fun _ => touches_memory nofun
    simp only [execute, steps, bind_eq_error_iff] at h
    rcases h with h | ⟨_, -, h | ⟨_, -, h | ⟨_, -, h⟩⟩⟩
    · exact misses_of_load (hregister _ (.tail _ (.head _))) h
    · exact misses_of_load (hregister _ (.head _)) h
    · exact misses_of_load (hcell _) h
    · exact misses_of_store (hregister _ (.tail _ (.head _))) h
  | memoryWrite source offset base =>
    have hcell : ∀ index, (Instruction.memoryWrite source offset base).Touches (.memory index) :=
      fun _ => touches_memory nofun
    simp only [execute, steps, bind_eq_error_iff, add?_cellAt] at h
    rcases h with h | ⟨_, -, h | ⟨_, -, h⟩⟩
    · exact misses_of_load (hregister _ (.head _)) h
    · exact misses_of_load (hregister _ (.tail _ (.head _))) h
    · exact misses_of_store (hcell _) h
  | bitwiseOr destination address source =>
    have hcell : ∀ index,
        (Instruction.bitwiseOr destination address source).Touches (.memory index) :=
      fun _ => touches_memory nofun
    simp only [execute, steps, bind_eq_error_iff] at h
    rcases h with h | ⟨_, -, h | ⟨_, -, h | ⟨_, -, h⟩⟩⟩
    · exact misses_of_load (hregister _ (.head _)) h
    · exact misses_of_load (hregister _ (.tail _ (.head _))) h
    · exact misses_of_load (hcell _) h
    · exact misses_of_store (hregister _ (.head _)) h

end

end Machine

end Quartet
