import Quartet.Proofs.CodeWord.Reading
import Quartet.Proofs.Machine.Effect
import Quartet.Proofs.Run.Course

namespace Quartet

/-!
# What is in reach

Both layouts read the number of a register from three bits.  So code can name the first eight
registers and no others, whatever it consists of: the rest of the machine neither changes nor has
any influence on a run, and no register is ever missing.

* `Address.InReach` — the addresses that code can name.
* `CodeWord.inReach_of_touches` — instructions that were read touch nothing else.
* `Machine.visitAll_alike` — what is out of reach makes no difference to a list of pieces.
* `Machine.run_inReach` — whole streams.
-/

/-- Whether code can name an address: a memory cell, or one of the first eight registers. -/
def Address.InReach : Address → Prop
  | .register index => index.toNat < 8
  | .memory _ => True

/-! ### Instructions that were read -/

namespace CodeWord

variable {layout : Layout} {word : CodeWord} {instruction : Instruction}

/-- The registers that an instruction names were read from three bits each. -/
theorem toNat_lt_of_mem_registers (h : decode layout word = .ok instruction) :
    ∀ number ∈ instruction.registers, number.toNat < 8 := by
  have hfits := fits_of_decode h
  cases layout <;> cases instruction <;>
    simp [Layout.fields, Instruction.opcode, Instruction.fields, Field.Fits,
      Instruction.registers] at hfits ⊢ <;>
    omega

/-- An instruction that was read touches only addresses in reach. -/
theorem inReach_of_touches (h : decode layout word = .ok instruction) {address : Address}
    (htouches : instruction.Touches address) : address.InReach := by
  cases address with
  | memory index => trivial
  | register index =>
    obtain ⟨number, hmem, rfl⟩ := htouches
    show number.toUInt64.toNat < 8
    rw [UInt32.toNat_toUInt64]
    exact toNat_lt_of_mem_registers h number hmem

/-- All that an instruction that was read can be missing is a memory cell, and it is no load of a
    constant then. -/
theorem exists_memory_of_execute (h : decode layout word = .ok instruction) {machine : Machine}
    {error : OutOfBounds} (herror : machine.execute instruction = .error error) :
    error.instruction.opcode ≠ .loadConstant ∧
      ∃ index, error.address = .memory index ∧ memorySize ≤ index.toNat := by
  obtain ⟨hinstruction, habsent, htouches⟩ := Machine.execute_eq_error herror
  have hreach := inReach_of_touches h htouches
  rw [hinstruction]
  cases haddress : error.address with
  | memory index =>
    rw [haddress] at habsent htouches
    have hindex : memorySize ≤ index.toNat := by simpa [Machine.get?] using habsent
    exact ⟨htouches, index, rfl, hindex⟩
  | register index =>
    rw [haddress] at habsent hreach
    have hindex : 32 ≤ index.toNat := by simpa [Machine.get?] using habsent
    have hsmall : index.toNat < 8 := hreach
    omega

end CodeWord

/-! ### Lists of pieces -/

namespace Machine

/-- Machines that agree in reach are the same to a piece, and agree in reach after it. -/
theorem visit_alike (layout : Layout) (piece : Piece) {first second : Machine}
    (h : first.AgreeOn Address.InReach second) :
    (first.visit layout piece).2 = (second.visit layout piece).2 ∧
      (first.visit layout piece).1.AgreeOn Address.InReach (second.visit layout piece).1 := by
  rcases visit_cases layout first piece with
    ⟨error, hread, hvisit⟩ | ⟨word, instruction, rfl, hread, hvisit⟩
  · rw [hvisit, visit_of_error second hread]
    exact ⟨rfl, h⟩
  · have hread' : ((.ok word : Piece) >>= CodeWord.decode layout) = .ok instruction := hread
    rw [hvisit, visit_of_ok second hread', attempt, attempt]
    have halike := execute_alike h fun _ => CodeWord.inReach_of_touches hread
    generalize first.execute instruction = outcome at halike ⊢
    generalize second.execute instruction = outcome' at halike ⊢
    cases halike with
    | ok hafter => exact ⟨rfl, hafter⟩
    | error error => exact ⟨rfl, h⟩

/-- Machines that agree in reach are the same to a list of pieces, and agree in reach after it. -/
theorem visitAll_alike (layout : Layout) (pieces : List Piece) {first second : Machine}
    (h : first.AgreeOn Address.InReach second) :
    (first.visitAll layout pieces).2 = (second.visitAll layout pieces).2 ∧
      (first.visitAll layout pieces).1.AgreeOn Address.InReach
        (second.visitAll layout pieces).1 := by
  -- both machines vary, since each piece is another step of both
  induction pieces generalizing first second with
  | nil => exact ⟨rfl, h⟩
  | cons piece rest ih =>
    obtain ⟨hcause, hafter⟩ := visit_alike layout piece h
    obtain ⟨hcauses, hlast⟩ := ih hafter
    rw [visitAll_cons, visitAll_cons, hcause, hcauses]
    exact ⟨rfl, hlast⟩

/-- What is out of reach keeps its word. -/
theorem get?_visitAll (layout : Layout) (pieces : List Piece) (machine : Machine)
    {address : Address} (hfar : ¬ address.InReach) :
    (machine.visitAll layout pieces).1.get? address = machine.get? address := by
  refine visitAll_invariant (P := fun after => after.get? address = machine.get? address) ?_ rfl
  intro before after instruction word hmem hread hexecute hbefore
  have huntouched : ¬ instruction.Touches address :=
    fun htouches => hfar (CodeWord.inReach_of_touches hread htouches)
  rw [get?_of_execute hexecute huntouched, hbefore]

/-! ### Whole streams -/

/-- Two machines that differ only in the registers from the ninth on, and in what they remember of
    the last write, are the same to a run: it finds the same faults, leaves the same words in
    reach, and leaves to each machine the words that are not.  What a run finds out of bounds is
    always a memory cell. -/
theorem run_inReach (options : RunOptions) (code : List UInt8) {first second : Machine}
    (h : first.AgreeOn Address.InReach second) :
    let run := first.run options code
    let run' := second.run options code
    (run.words = run'.words ∧ run.executed = run'.executed ∧ run.faults = run'.faults) ∧
      run.machine.AgreeOn Address.InReach run'.machine ∧
      (∀ address, ¬ address.InReach → run.machine.get? address = first.get? address) ∧
      (∀ address, ¬ address.InReach → run'.machine.get? address = second.get? address) ∧
      ∀ fault ∈ run.faults, ∀ error, fault.cause = .execution error →
        error.instruction.opcode ≠ .loadConstant ∧
          ∃ index, error.address = .memory index ∧ memorySize ≤ index.toNat := by
  obtain ⟨hcauses, hmachine⟩ := visitAll_alike options.layout (CodeWord.ofStream code) h
  refine ⟨⟨?_, ?_, ?_⟩, ?_, ?_, ?_, ?_⟩
  · rw [words_run, words_run]
  · rw [executed_run, executed_run, hcauses]
  · rw [← Array.toList_inj, faults_run, faults_run, hcauses]
  · rw [machine_run, machine_run]
    exact hmachine
  · intro address hfar
    rw [machine_run, get?_visitAll _ _ _ hfar]
  · intro address hfar
    rw [machine_run, get?_visitAll _ _ _ hfar]
  · intro fault hmem error hcause
    obtain ⟨word, instruction, -, hread, before, hexecute⟩ := exists_of_mem_faults hmem hcause
    exact CodeWord.exists_memory_of_execute hread hexecute

/-- A word in the ninth register makes no difference to a stream that reads past the end of memory,
    and is still there after it. -/
theorem run_inReach_ninth :
    let code : List UInt8 :=
      [0xC3, 0x01, 0x20, 0x00, 0x00, 0x00, 0x53, 0x29, 0x00, 0x00, 0x00, 0x00]
    let other : Machine := { zero with registers := zero.registers.set 8 7 }
    zero.AgreeOn Address.InReach other ∧
      (zero.run {} code).faults = (other.run {} code).faults ∧
      (other.run {} code).machine.get? (.register 8) = some 7 := by
  intro code other
  have hagree : zero.AgreeOn Address.InReach other := by
    intro address hreach
    cases address with
    | memory index => rfl
    | register index =>
      have hlt : index.toNat < 8 := hreach
      exact (Vector.getElem?_set_ne (by decide) (by omega)).symm
  obtain ⟨⟨-, -, hfaults⟩, -, -, hfar, -⟩ := run_inReach {} code hagree
  refine ⟨hagree, hfaults, ?_⟩
  rw [hfar (.register 8) (by decide : ¬ 8 < 8)]
  rfl

end Machine

end Quartet
