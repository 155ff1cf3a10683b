import Quartet.Proofs.Assembly.Commands
import Quartet.Proofs.CodeWord.Bytes
import Quartet.Proofs.CodeWord.Reading
import Quartet.Proofs.Machine.Bounds
import Quartet.Proofs.Run.Course

namespace Quartet

/-!
# Running what was assembled

The stream of an assembly is cut into the words that were assembled, and each of them is read as
the instruction that it was made from, as far as the layout reads it.  A run of the stream is
thus the execution of these instructions, one after the other.

* `Machine.executeAll` — the machine after a list of instructions.
* `Assembly.ofStream_code` — the words of the stream of an assembly.
* `Machine.visitAll_words` — the course of a run through words that were written.
* `Machine.run_code_ofText` — a run of the stream of an assembled text.
-/

/-! ### Instructions one after the other -/

namespace Machine

/-- The machine after a list of instructions; those that fail leave it alone. -/
def executeAll (machine : Machine) (program : List Instruction) : Machine :=
  program.foldl (fun machine instruction => (machine.attempt instruction).1) machine

theorem executeAll_concat (machine : Machine) (program : List Instruction)
    (instruction : Instruction) :
    machine.executeAll (program ++ [instruction])
      = ((machine.executeAll program).attempt instruction).1 := by
  rw [executeAll, List.foldl_append]
  rfl

/-- Whether the instruction at a position of a program succeeds when its turn has come. -/
def succeedsAt (machine : Machine) (program : List Instruction) : Instruction × Nat → Bool
  | (instruction, index) =>
    ((machine.executeAll (program.take index)).execute instruction).isOk

/-- The fault of the instruction at a position of a program, if it fails when its turn has
    come. -/
def faultAt? (machine : Machine) (program : List Instruction) : Instruction × Nat → Option Fault
  | (instruction, index) =>
    match (machine.executeAll (program.take index)).execute instruction with
    | .ok _ => none
    | .error error => some ⟨index, .execution ⟨instruction, error.address⟩⟩

section

variable {machine : Machine} {program : List Instruction} {instruction : Instruction} {index : Nat}

/-- An instruction that succeeds has no fault. -/
theorem turn_of_ok {after : Machine}
    (h : (machine.executeAll (program.take index)).execute instruction = .ok after) :
    machine.succeedsAt program (instruction, index) = true ∧
      machine.faultAt? program (instruction, index) = none := by
  rw [succeedsAt, faultAt?, h]
  exact ⟨rfl, rfl⟩

/-- An instruction that fails has its error for a fault. -/
theorem turn_of_error {error : OutOfBounds}
    (h : (machine.executeAll (program.take index)).execute instruction = .error error) :
    machine.succeedsAt program (instruction, index) = false ∧
      machine.faultAt? program (instruction, index) = some ⟨index, .execution error⟩ := by
  have hsame := (execute_eq_error h).1
  rw [succeedsAt, faultAt?, h, ← hsame]
  exact ⟨rfl, rfl⟩

end

end Machine

/-! ### The words of an assembly -/

/-- The stream of an assembly is cut into the words that were assembled. -/
theorem Assembly.ofStream_code (tokens : List Token) :
    CodeWord.ofStream (ofTokens tokens).code
      = (ofTokens tokens).entries.map fun entry => .ok entry.word := by
  have hwords : ∀ word ∈ (ofTokens tokens).entries.map (·.word), word.toNat < 2 ^ wordBits := by
    intro word hmem
    obtain ⟨entry, hentry, rfl⟩ := List.mem_map.mp hmem
    exact CodeWord.toNat_lt_of_encode (encode_of_mem_entries hentry)
  have hstream := CodeWord.ofStream_flatMap_toBytes _ hwords
  rw [List.flatMap_map, List.map_map] at hstream
  exact hstream

namespace Machine

/-- A word that was written is executed as its instruction, as the layout reads it. -/
theorem visit_word (layout : Layout) (machine : Machine) {instruction : Instruction}
    {word : CodeWord} (h : CodeWord.encode instruction = .ok word) :
    machine.visit layout (.ok word) = machine.attempt (layout.cut instruction) :=
  visit_of_ok machine (CodeWord.decode_of_encode layout h)

/-- What comes of words that were written, after the instructions `done`.  The induction is on
    the words that are left; each of them joins the instructions that are done. -/
theorem visitAll_words (layout : Layout) (machine : Machine) (done : List Instruction)
    (entries : List Entry)
    (h : ∀ entry ∈ entries, CodeWord.encode entry.instruction = .ok entry.word) :
    let later := entries.map fun entry => layout.cut entry.instruction
    let course := (machine.executeAll done).visitAll layout <|
      entries.map fun entry => .ok entry.word
    course.1 = machine.executeAll (done ++ later) ∧
      course.2.count none
        = (later.zipIdx done.length).countP (machine.succeedsAt (done ++ later)) ∧
      Fault.numbered done.length course.2
        = (later.zipIdx done.length).filterMap (machine.faultAt? (done ++ later)) := by
  induction entries generalizing done with
  | nil => simp
  | cons entry rest ih =>
    obtain ⟨hentry, hrest⟩ := List.forall_mem_cons.mp h
    obtain ⟨hmachine, hcount, hfaults⟩ := ih (done ++ [layout.cut entry.instruction]) hrest
    -- the machine whose turn it is has executed what is done
    have hturn : (done ++ layout.cut entry.instruction ::
        rest.map fun entry => layout.cut entry.instruction).take done.length = done := by simp
    simp only [List.append_assoc, List.singleton_append, List.length_append, List.length_singleton,
      executeAll_concat] at hmachine hcount hfaults
    dsimp only
    rw [List.map_cons, List.map_cons, visitAll_cons, visit_word layout _ hentry, List.zipIdx_cons]
    cases hexecute : (machine.executeAll done).execute (layout.cut entry.instruction) with
    | ok after =>
      obtain ⟨hsucceeds, hfault⟩ := turn_of_ok (hturn.symm ▸ hexecute)
      rw [attempt_of_ok hexecute] at hmachine hcount hfaults ⊢
      refine ⟨hmachine, ?_, ?_⟩
      · rw [List.count_cons_self, hcount, List.countP_cons_of_pos hsucceeds]
      · rw [Fault.numbered_none, hfaults, List.filterMap_cons_none hfault]
    | error error =>
      obtain ⟨hsucceeds, hfault⟩ := turn_of_error (hturn.symm ▸ hexecute)
      rw [attempt_of_error hexecute] at hmachine hcount hfaults ⊢
      refine ⟨hmachine, ?_, ?_⟩
      · rw [List.count_cons_of_ne (by simp), hcount,
          List.countP_cons_of_neg (Bool.not_eq_true _ ▸ hsucceeds)]
      · rw [Fault.numbered_some, hfaults, List.filterMap_cons_some hfault]

/-! ### Whole texts -/

/-- A run of the stream of an assembled text, wherever assembly stopped, executes the
    instructions that were assembled, as the layout reads them.  It takes one word for each;
    its faults are those of the instructions that fail when their turn has come. -/
theorem run_code_ofText (text : String) (options : RunOptions) (machine : Machine) :
    let assembly := Assembly.ofText text
    let program := assembly.instructions.map options.layout.cut
    let run := machine.run options assembly.code
    run.words = assembly.instructions.length ∧
      run.machine = machine.executeAll program ∧
      run.executed = program.zipIdx.countP (machine.succeedsAt program) ∧
      run.faults.toList = program.zipIdx.filterMap (machine.faultAt? program) := by
  intro assembly program run
  have hstream : CodeWord.ofStream assembly.code
      = assembly.entries.map fun entry => .ok entry.word := Assembly.ofStream_code _
  obtain ⟨hmachine, hcount, hfaults⟩ := visitAll_words options.layout machine []
    assembly.entries fun entry hmem => Assembly.encode_of_mem_entries hmem
  have hprogram : (assembly.entries.map fun entry => options.layout.cut entry.instruction)
      = program := by
    rw [← Function.comp_def, ← List.map_map]
    rfl
  rw [hprogram] at hmachine hcount hfaults
  rw [words_run, machine_run, executed_run, faults_run, hstream]
  refine ⟨?_, hmachine, hcount, hfaults⟩
  rw [List.length_map, Assembly.instructions, List.length_map]

end Machine

end Quartet
