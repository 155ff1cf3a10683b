import Quartet.Proofs.Check
import Quartet.Proofs.Machine.Effect
import Quartet.Proofs.Run.Course

namespace Quartet

/-!
# The meaning of instructions

What an instruction means is said by one rule for each opcode, in numbers alone: which registers
and which cell there have to be, and what becomes of the machine.  Execution follows these rules.
Where none applies, it names the first address that is missing and leaves the machine alone.

* `Machine.Becomes` — the rules.
* `Instruction.checked`, `Machine.cell?`, `Machine.needs` — the registers and the cell that an
  instruction needs, in the order in which they are looked for.
* `Machine.becomes_iff`, `Machine.governs_execute` — execution follows the rules, and makes one
  check for each address that is needed.
* `Machine.execute_semantics` — execution of every instruction on every machine.
-/

/-- The registers that an instruction names, in the order in which they are looked for. -/
def Instruction.checked : Instruction → List Word
  | loadConstant destination _ => [destination]
  | memoryRead base destination => [destination, base]
  | memoryWrite source _ base => [source, base]
  | bitwiseOr destination _ source => [destination, source]

namespace Machine

/-! ### The rules -/

/-- What becomes of a machine that has all that an instruction needs.  One word changes, and it is
    the one remembered; all words on the right are those the machine held before. -/
inductive Becomes (machine : Machine) : Instruction → Machine → Prop
  /-- The register `destination` takes the constant. -/
  | loadConstant {destination value : Word} (hdestination : destination.toNat < 32) :
    Becomes machine (.loadConstant destination value)
      { machine with
        registers := machine.registers.set destination.toNat value
        lastWrite := some (.register destination.toUInt64) }
  /-- The register `destination` takes the cell that register `base` points at. -/
  | memoryRead {base destination : Word} (hdestination : destination.toNat < 32)
    (hbase : base.toNat < 32) (hcell : machine.registers[base.toNat].toNat < 1024) :
    Becomes machine (.memoryRead base destination)
      { machine with
        registers := machine.registers.set destination.toNat
          machine.memory[machine.registers[base.toNat].toNat]
        lastWrite := some (.register destination.toUInt64) }
  /-- The cell `offset` places past the one that register `base` points at takes register
      `source`.  The sum of the two is one of natural numbers. -/
  | memoryWrite {source offset base : Word} (hsource : source.toNat < 32)
    (hbase : base.toNat < 32)
    (hcell : machine.registers[base.toNat].toNat + offset.toNat < 1024) :
    Becomes machine (.memoryWrite source offset base)
      { machine with
        memory := machine.memory.set (machine.registers[base.toNat].toNat + offset.toNat)
          machine.registers[source.toNat]
        lastWrite := some
          (.memory (UInt64.ofNat (machine.registers[base.toNat].toNat + offset.toNat))) }
  /-- The register `destination` takes register `source` joined with the cell `address`. -/
  | bitwiseOr {destination address source : Word} (hdestination : destination.toNat < 32)
    (hsource : source.toNat < 32) (hcell : address.toNat < 1024) :
    Becomes machine (.bitwiseOr destination address source)
      { machine with
        registers := machine.registers.set destination.toNat
          (machine.registers[source.toNat] ||| machine.memory[address.toNat])
        lastWrite := some (.register destination.toUInt64) }

/-- The index of the cell that an instruction needs, if it needs one and the register that points
    at it exists. -/
def cell? (machine : Machine) : Instruction → Option Nat
  | .loadConstant .. => none
  | .memoryRead base _ => machine.registers[base.toNat]?.map fun pointer => pointer.toNat
  | .memoryWrite _ offset base =>
    machine.registers[base.toNat]?.map fun pointer => pointer.toNat + offset.toNat
  | .bitwiseOr _ address _ => some address.toNat

/-- The addresses that an instruction needs: first its registers, then its cell. -/
def needs (machine : Machine) (instruction : Instruction) : List Address :=
  instruction.checked.map registerAt ++
    (machine.cell? instruction).toList.map fun index => .memory (UInt64.ofNat index)

/-- The check that an address is there. -/
def presence (instruction : Instruction) (address : Address) : Check OutOfBounds where
  Holds := address.InRange
  error := ⟨instruction, address⟩

instance (instruction : Instruction) (address : Address) :
    Decidable (presence instruction address).Holds :=
  inferInstanceAs (Decidable address.InRange)

/-! ### Words in numbers -/

theorem get?_registerAt (machine : Machine) (number : Word) :
    machine.get? (registerAt number) = machine.registers[number.toNat]? := rfl

theorem memory_ofNat_toNat (pointer : Word) :
    Address.memory (UInt64.ofNat pointer.toNat) = cellAt pointer := by
  rw [cellAt, UInt64.ofNat_uInt32ToNat]

/-- The index of a cell that two words add up to is no less than their sum. -/
theorem toNat_ofNat_add (pointer offset : Word) :
    (UInt64.ofNat (pointer.toNat + offset.toNat)).toNat = pointer.toNat + offset.toNat := by
  have hpointer := pointer.toNat_lt
  have hoffset := offset.toNat_lt
  rw [UInt64.toNat_ofNat']
  omega

theorem ofNat_add (pointer offset : Word) :
    UInt64.ofNat (pointer.toNat + offset.toNat) = pointer.toUInt64 + offset.toUInt64 := by
  have hpointer := pointer.toNat_lt
  have hoffset := offset.toNat_lt
  apply UInt64.toNat_inj.mp
  rw [toNat_ofNat_add, UInt64.toNat_add, UInt32.toNat_toUInt64, UInt32.toNat_toUInt64]
  omega

section

variable {machine after : Machine} {value : Word}

theorem set?_registerAt_eq_some_iff {number : Word} :
    machine.set? (registerAt number) value = some after ↔
      ∃ h : number.toNat < 32, { machine with
        registers := machine.registers.set number.toNat value h
        lastWrite := some (.register number.toUInt64) } = after := by
  simp [set?, registerAt]

theorem set?_memory_eq_some_iff {pointer offset : Word} :
    machine.set? (.memory (pointer.toUInt64 + offset.toUInt64)) value = some after ↔
      ∃ h : pointer.toNat + offset.toNat < 1024, { machine with
        memory := machine.memory.set (pointer.toNat + offset.toNat) value h
        lastWrite := some (.memory (UInt64.ofNat (pointer.toNat + offset.toNat))) } = after := by
  rw [← ofNat_add]
  simp only [set?, toNat_ofNat_add]
  simp

end

/-! ### Execution -/

/-- The rules say what execution does: which word is written, and where. -/
theorem becomes_iff {machine after : Machine} {instruction : Instruction} :
    machine.Becomes instruction after ↔
      ∃ address value, machine.Writes instruction address value ∧
        machine.set? address value = some after := by
  constructor
  · intro h
    cases h with
    | loadConstant hdestination =>
      exact ⟨_, _, .loadConstant, set?_registerAt_eq_some_iff.mpr ⟨hdestination, rfl⟩⟩
    | memoryRead hdestination hbase hcell =>
      exact ⟨_, _,
        .memoryRead (Vector.getElem?_eq_getElem hbase) (Vector.getElem?_eq_getElem hcell),
        set?_registerAt_eq_some_iff.mpr ⟨hdestination, rfl⟩⟩
    | memoryWrite hsource hbase hcell =>
      exact ⟨_, _,
        .memoryWrite (Vector.getElem?_eq_getElem hsource) (Vector.getElem?_eq_getElem hbase),
        set?_memory_eq_some_iff.mpr ⟨hcell, rfl⟩⟩
    | bitwiseOr hdestination hsource hcell =>
      exact ⟨_, _,
        .bitwiseOr (Vector.getElem?_eq_getElem hsource) (Vector.getElem?_eq_getElem hcell),
        set?_registerAt_eq_some_iff.mpr ⟨hdestination, rfl⟩⟩
  · rintro ⟨address, value, hwrites, hafter⟩
    -- a word that is read is the one at its index, which is therefore in range
    cases hwrites with
    | loadConstant =>
      obtain ⟨hdestination, rfl⟩ := set?_registerAt_eq_some_iff.mp hafter
      exact .loadConstant hdestination
    | memoryRead hpointer hvalue =>
      obtain ⟨hdestination, rfl⟩ := set?_registerAt_eq_some_iff.mp hafter
      obtain ⟨hbase, rfl⟩ := Vector.getElem?_eq_some_iff.mp hpointer
      obtain ⟨hcell, rfl⟩ := Vector.getElem?_eq_some_iff.mp hvalue
      exact .memoryRead hdestination hbase hcell
    | memoryWrite hvalue hpointer =>
      obtain ⟨hcell, rfl⟩ := set?_memory_eq_some_iff.mp hafter
      obtain ⟨hsource, rfl⟩ := Vector.getElem?_eq_some_iff.mp hvalue
      obtain ⟨hbase, rfl⟩ := Vector.getElem?_eq_some_iff.mp hpointer
      exact .memoryWrite hsource hbase hcell
    | bitwiseOr hleft hright =>
      obtain ⟨hdestination, rfl⟩ := set?_registerAt_eq_some_iff.mp hafter
      obtain ⟨hsource, rfl⟩ := Vector.getElem?_eq_some_iff.mp hleft
      obtain ⟨hcell, rfl⟩ := Vector.getElem?_eq_some_iff.mp hright
      exact .bitwiseOr hdestination hsource hcell

section

variable (machine : Machine) (instruction : Instruction)

/-- A load makes one check: that its address is there. -/
theorem governs_load (address : Address) :
    Check.Governs [presence instruction address] (machine.load instruction address) := by
  refine .single fun error => ?_
  rw [load_eq_error_iff, get?_eq_none_iff]
  rfl

/-- So does a store. -/
theorem governs_store (address : Address) (value : Word) :
    Check.Governs [presence instruction address]
      (machine.store instruction address value) := by
  refine .single fun error => ?_
  rw [store_eq_error_iff, get?_eq_none_iff]
  rfl

/-- A store to an address that has been found makes none. -/
theorem governs_store_of_load {address : Address} {word : Word} (value : Word)
    (h : machine.load instruction address = .ok word) :
    Check.Governs [] (machine.store instruction address value) := by
  refine .nil fun error herror => ?_
  rw [load_eq_ok_iff] at h
  rw [store_eq_error_iff, h] at herror
  cases herror.1

/-- Execution makes one check for each address that an instruction needs, in their order. -/
theorem governs_execute :
    Check.Governs ((machine.needs instruction).map (presence instruction))
      (machine.execute instruction) := by
  cases instruction with
  | loadConstant destination value => exact governs_store _ _ _ _
  | memoryRead base destination =>
    refine (governs_load _ _ _).cons fun word hfound => ?_
    refine (governs_load _ _ _).cons fun pointer hpointer => ?_
    -- the cell is known now that the register that points at it has been found
    have hcell : machine.cell? (.memoryRead base destination) = some pointer.toNat := by
      rw [cell?, ← get?_registerAt, (load_eq_ok_iff _ _ _ _).mp hpointer, Option.map_some]
    show Check.Governs (List.map _ (List.map _ (machine.cell? _).toList)) _
    rw [hcell, Option.toList_some, List.map_singleton, List.map_singleton, memory_ofNat_toNat]
    exact (governs_load _ _ _).cons fun value _ => governs_store_of_load _ _ _ hfound
  | memoryWrite source offset base =>
    refine (governs_load _ _ _).cons fun value _ => ?_
    refine (governs_load _ _ _).cons fun pointer hpointer => ?_
    have hcell : machine.cell? (.memoryWrite source offset base)
        = some (pointer.toNat + offset.toNat) := by
      rw [cell?, ← get?_registerAt, (load_eq_ok_iff _ _ _ _).mp hpointer, Option.map_some]
    show Check.Governs (List.map _ (List.map _ (machine.cell? _).toList)) _
    rw [hcell, Option.toList_some, List.map_singleton, List.map_singleton, ofNat_add,
      add?_cellAt]
    exact governs_store _ _ _ _
  | bitwiseOr destination address source =>
    refine (governs_load _ _ _).cons fun word hfound => ?_
    refine (governs_load _ _ _).cons fun left _ => ?_
    show Check.Governs [presence _ (.memory (UInt64.ofNat address.toNat))] _
    rw [memory_ofNat_toNat]
    exact (governs_load _ _ _).cons fun right _ => governs_store_of_load _ _ _ hfound

end

/-- The index of a cell that an instruction needs is one that an address can have. -/
theorem toNat_ofNat_of_cell? {machine : Machine} {instruction : Instruction} {index : Nat}
    (h : machine.cell? instruction = some index) : (UInt64.ofNat index).toNat = index := by
  have hword : ∀ pointer : Word, (UInt64.ofNat pointer.toNat).toNat = pointer.toNat := by simp
  cases instruction with
  | loadConstant destination value => cases h
  | memoryRead base destination =>
    obtain ⟨pointer, -, rfl⟩ := Option.map_eq_some_iff.mp h
    exact hword pointer
  | memoryWrite source offset base =>
    obtain ⟨pointer, -, rfl⟩ := Option.map_eq_some_iff.mp h
    exact toNat_ofNat_add pointer offset
  | bitwiseOr destination address source =>
    cases h
    exact hword address

/-- Whether a machine has all that an instruction needs, in numbers. -/
theorem inRange_needs_iff (machine : Machine) (instruction : Instruction) :
    (∀ address ∈ machine.needs instruction, address.InRange) ↔
      (∀ number ∈ instruction.checked, number.toNat < 32) ∧
        ∀ index, machine.cell? instruction = some index → index < 1024 := by
  rw [needs, List.forall_mem_append, List.forall_mem_map, List.forall_mem_map]
  refine and_congr Iff.rfl (forall_congr' fun index => ?_)
  rw [Option.mem_toList]
  refine forall_congr' fun hcell => ?_
  rw [Address.InRange, toNat_ofNat_of_cell? hcell]

/-! ### What execution does -/

/-- A run goes on with the machine as it was if an instruction fails. -/
theorem machine_execute_of_error {run : Run} {instruction : Instruction} {error : OutOfBounds}
    (index : Nat) (h : run.machine.execute instruction = .error error) :
    (run.execute index instruction).machine = run.machine := by
  rw [Run.execute_eq, h]
  rfl

/-- An instruction succeeds exactly if its registers are among the 32 and its cell is among the
    1024, and then the machine is as the rules say: the word at one address has changed, and this
    address is remembered.  Otherwise the error names the instruction and the first address that
    is missing, and the machine that the instruction has worked on in place, with which a run goes
    on, is as it was. -/
theorem execute_semantics (machine : Machine) (instruction : Instruction) :
    ((∃ after, machine.execute instruction = .ok after) ↔
        (∀ number ∈ instruction.checked, number.toNat < 32) ∧
          ∀ index, machine.cell? instruction = some index → index < 1024) ∧
      (∀ after,
        (machine.execute instruction = .ok after ↔ machine.Becomes instruction after) ∧
          ((Work.execute instruction).on machine = (.ok (), after) ↔
            machine.Becomes instruction after)) ∧
      (∀ after, machine.execute instruction = .ok after → ∃ target,
        after.lastWrite = some target ∧ target.InRange ∧
          ∀ other, other ≠ target → after.get? other = machine.get? other) ∧
      (∀ error, machine.execute instruction = .error error ↔
        Check.FirstFailure ((machine.needs instruction).map (presence instruction)) error) ∧
      ∀ error, machine.execute instruction = .error error →
        error.instruction = instruction ∧ ¬ error.address.InRange ∧
          (Work.execute instruction).on machine = (.error error, machine) ∧
          ∀ (run : Run) (index : Nat), run.machine = machine →
            (run.execute index instruction).machine = machine := by
  have hgoverns := governs_execute machine instruction
  refine ⟨?_, ?_, ?_, hgoverns, ?_⟩
  · rw [hgoverns.exists_ok_iff, List.forall_mem_map]
    exact inRange_needs_iff machine instruction
  · intro after
    rw [Work.on_eq_ok_iff, execute_eq_ok_iff, becomes_iff]
    exact ⟨Iff.rfl, Iff.rfl⟩
  · intro after h
    obtain ⟨target, value, -, hset⟩ := (execute_eq_ok_iff _ _ _).mp h
    refine ⟨target, lastWrite_of_set? hset, ?_, fun other => get?_of_set?_ne hset⟩
    obtain ⟨word, hword⟩ := exists_get?_of_set? hset
    refine Classical.not_not.mp fun habsent => ?_
    rw [(get?_eq_none_iff _ _).mpr habsent] at hword
    cases hword
  · intro error h
    have hmisses := execute_eq_error h
    refine ⟨hmisses.same, (get?_eq_none_iff _ _).mp hmisses.absent,
      Work.on_execute_of_error h, ?_⟩
    rintro run index rfl
    exact machine_execute_of_error index h

/-- A register that holds the largest word points past all cells together with the largest offset:
    the sum of the two is not taken modulo anything.  If a register does not exist either, it is
    the one that is reported.  An instruction that reads and writes one register leaves the rest. -/
theorem execute_semantics_largest :
    let machine : Machine := { zero with registers := zero.registers.set 1 0xFFFFFFFF }
    machine.execute (.memoryWrite 1 0xFFFFFFFF 1)
        = .error ⟨.memoryWrite 1 0xFFFFFFFF 1, .memory 0x1FFFFFFFE⟩ ∧
      (Work.execute (.memoryWrite 1 0xFFFFFFFF 1)).on machine
        = (.error ⟨.memoryWrite 1 0xFFFFFFFF 1, .memory 0x1FFFFFFFE⟩, machine) ∧
      ((Run.start machine).execute 0 (.memoryWrite 1 0xFFFFFFFF 1)).machine = machine ∧
      machine.execute (.memoryWrite 32 0xFFFFFFFF 1)
        = .error ⟨.memoryWrite 32 0xFFFFFFFF 1, .register 32⟩ ∧
      ∃ after, machine.execute (.bitwiseOr 1 1023 1) = .ok after ∧
        after.lastWrite = some (.register 1) ∧
        after.get? (.memory 1023) = machine.get? (.memory 1023) := by
  intro machine
  have hneeds : machine.needs (.memoryWrite 1 0xFFFFFFFF 1)
      = [.register 1, .register 1, .memory 0x1FFFFFFFE] := by decide
  obtain ⟨-, -, -, hfailure, hunchanged⟩ :=
    execute_semantics machine (.memoryWrite 1 0xFFFFFFFF 1)
  rw [hneeds] at hfailure
  have hcell := (hfailure ⟨_, .memory 0x1FFFFFFFE⟩).mpr
    (.later (by decide) (.later (by decide) (.here (by decide))))
  obtain ⟨-, -, hplace, hrun⟩ := hunchanged _ hcell
  have hsame := hrun (Run.start machine) 0 rfl
  obtain ⟨-, -, -, hfailure', -⟩ := execute_semantics machine (.memoryWrite 32 0xFFFFFFFF 1)
  have hregister := (hfailure' ⟨_, .register 32⟩).mpr (.here (by decide))
  obtain ⟨-, hbecomes, hrest, -⟩ := execute_semantics machine (.bitwiseOr 1 1023 1)
  have hafter := (hbecomes _).1.mpr (.bitwiseOr (by decide) (by decide) (by decide))
  obtain ⟨target, htarget, -, hothers⟩ := hrest _ hafter
  cases htarget
  exact ⟨hcell, hplace, hsame, hregister, _, hafter, rfl, hothers _ nofun⟩

end Machine

end Quartet
