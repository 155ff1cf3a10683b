import Quartet.Proofs.CodeWord.Cutting
import Quartet.Proofs.Run.Course
import Mathlib.Data.List.Basic

namespace Quartet

/-!
# The trace of a run

A verbose run keeps a snapshot of each word that is read, whether its instruction then succeeds or
not: the instruction, and the machine that the stream up to and with this word leaves behind.
Whether a run is verbose matters to its trace and to nothing else.

* `Machine.snapshot?`, `Machine.snapshots` — what is kept of a piece, and of a list of pieces.
* `Machine.trace_run`, `Machine.snapshots_eq_filterMap` — the trace of a run, piece by piece.
* `CodeWord.ofStream_take` — the beginning of a stream.
* `Run.silent`, `Machine.run_silent` — a run without its trace.
* `Machine.run_traced` — what is printed of a stream.
-/

namespace Machine

/-! ### Snapshots -/

/-- What is kept of a piece: the instruction it is read as and the machine after it. -/
def snapshot? (layout : Layout) (machine : Machine) (piece : Piece) : Option Snapshot :=
  (piece >>= CodeWord.decode layout).toOption.map fun instruction =>
    ⟨instruction, (machine.visit layout piece).1⟩

/-- What is kept of a list of pieces. -/
def snapshots (layout : Layout) (machine : Machine) : List Piece → List Snapshot
  | [] => []
  | piece :: rest =>
    (machine.snapshot? layout piece).toList ++ (machine.visit layout piece).1.snapshots layout rest

/-- What is kept of the piece at a position: the instruction it is read as and the machine after
    all pieces up to this one. -/
def snapshotAt? (layout : Layout) (machine : Machine) (pieces : List Piece) :
    Piece × Nat → Option Snapshot
  | (piece, index) =>
    (piece >>= CodeWord.decode layout).toOption.map fun instruction =>
      ⟨instruction, (machine.visitAll layout (pieces.take (index + 1))).1⟩

theorem snapshotAt?_zero (layout : Layout) (machine : Machine) (piece : Piece)
    (rest : List Piece) :
    machine.snapshotAt? layout (piece :: rest) (piece, 0) = machine.snapshot? layout piece := rfl

/-- Behind the first piece the others are counted from the machine after it. -/
theorem snapshotAt?_succ (layout : Layout) (machine : Machine) (first : Piece)
    (rest : List Piece) (piece : Piece) (index : Nat) :
    machine.snapshotAt? layout (first :: rest) (piece, index + 1)
      = (machine.visit layout first).1.snapshotAt? layout rest (piece, index) := rfl

theorem snapshots_eq_filterMap (layout : Layout) (machine : Machine) (pieces : List Piece) :
    machine.snapshots layout pieces
      = pieces.zipIdx.filterMap (machine.snapshotAt? layout pieces) := by
  induction pieces generalizing machine with
  | nil => rfl
  | cons piece rest ih =>
    have hrest : (rest.zipIdx 1).filterMap (machine.snapshotAt? layout (piece :: rest))
        = rest.zipIdx.filterMap ((machine.visit layout piece).1.snapshotAt? layout rest) := by
      rw [List.zipIdx_succ, List.filterMap_map]
      exact List.filterMap_congr fun entry _ =>
        snapshotAt?_succ layout machine piece rest entry.1 entry.2
    rw [snapshots, ih, List.zipIdx_cons, List.filterMap_cons, snapshotAt?_zero, hrest]
    cases machine.snapshot? layout piece <;> rfl

/-- More pieces are visited by the machine that the pieces before them leave. -/
theorem visitAll_append (layout : Layout) (machine : Machine) (pieces more : List Piece) :
    (machine.visitAll layout (pieces ++ more)).1
      = ((machine.visitAll layout pieces).1.visitAll layout more).1 := by
  induction pieces generalizing machine with
  | nil => rfl
  | cons piece rest ih => rw [List.cons_append, visitAll_cons, visitAll_cons, ih]

end Machine

namespace Run

/-- What a piece adds to the trace of a verbose run. -/
theorem trace_step (layout : Layout) (run : Run) (piece : Piece) :
    (step ⟨layout, true⟩ run piece).trace.toList
      = run.trace.toList ++ (run.machine.snapshot? layout piece).toList := by
  unfold step Machine.snapshot?
  cases hread : piece >>= CodeWord.decode layout with
  | error error => simp [fault, Except.toOption]
  | ok instruction =>
    rw [Machine.visit_of_ok _ hread]
    cases hexecute : run.machine.execute instruction with
    | error error =>
      simp [Machine.attempt_of_error hexecute, execute_eq, hexecute, fault, record_eq,
        Except.toOption]
    | ok after =>
      simp [Machine.attempt_of_ok hexecute, execute_eq, hexecute, record_eq, Except.toOption]

/-- What a list of pieces adds to the trace of a verbose run. -/
theorem trace_foldl_step (layout : Layout) (run : Run) (pieces : List Piece) :
    (pieces.foldl (step ⟨layout, true⟩) run).trace.toList
      = run.trace.toList ++ run.machine.snapshots layout pieces := by
  induction pieces generalizing run with
  | nil => exact (List.append_nil _).symm
  | cons piece rest ih =>
    obtain ⟨hmachine, -⟩ := step_spec ⟨layout, true⟩ run piece
    rw [List.foldl_cons, ih, trace_step, hmachine, Machine.snapshots, List.append_assoc]

/-! ### Runs without a trace -/

/-- A run without its trace. -/
def silent (run : Run) : Run := { run with trace := #[] }

/-- A step without a trace is the step of a verbose run but for its trace. -/
theorem step_silent (layout : Layout) (run : Run) (piece : Piece) :
    step ⟨layout, false⟩ run.silent piece = (step ⟨layout, true⟩ run piece).silent := by
  have hmachine : run.silent.machine = run.machine := rfl
  unfold step
  cases hread : piece >>= CodeWord.decode layout with
  | error error => rfl
  | ok instruction =>
    cases hexecute : run.machine.execute instruction <;>
      simp [silent, execute_eq, hexecute, fault, record]

theorem foldl_step_silent (layout : Layout) (run : Run) (pieces : List Piece) :
    pieces.foldl (step ⟨layout, false⟩) run.silent
      = (pieces.foldl (step ⟨layout, true⟩) run).silent := by
  induction pieces generalizing run with
  | nil => rfl
  | cons piece rest ih => rw [List.foldl_cons, List.foldl_cons, step_silent, ih]

end Run

/-- The first pieces of a stream are those of its first bytes. -/
theorem CodeWord.ofStream_take (code : List UInt8) (count : Nat) :
    ofStream (code.take (6 * count)) = (ofStream code).take count := by
  induction code using wordwise generalizing count with
  | nil => simp [ofStream]
  | fragment bytes hne hshort =>
    cases count with
    | zero => simp [ofStream]
    | succ count =>
      have hall : bytes.length ≤ 6 * (count + 1) := by
        simp only [wordBytes] at hshort
        omega
      rw [List.take_of_length_le hall, ofStream_fragment hne hshort, List.take_succ_cons,
        List.take_nil]
  | word bytes rest hlength ih =>
    cases count with
    | zero => simp [ofStream]
    | succ count =>
      have hfirst : (bytes ++ rest).take (6 * (count + 1)) = bytes ++ rest.take (6 * count) := by
        have hsum : 6 * (count + 1) = bytes.length + 6 * count := by
          rw [hlength, wordBytes]
          omega
        rw [hsum, List.take_length_add_append]
      rw [hfirst, ofStream_word hlength, ofStream_word hlength, List.take_succ_cons, ih]

namespace Machine

/-! ### Streams -/

/-- The machine after the first words of a stream. -/
theorem machine_run_take (machine : Machine) (options : RunOptions) (code : List UInt8)
    (count : Nat) :
    (machine.run options (code.take (6 * count))).machine
      = (machine.visitAll options.layout ((CodeWord.ofStream code).take count)).1 := by
  rw [machine_run, CodeWord.ofStream_take]

theorem trace_run (machine : Machine) (layout : Layout) (code : List UInt8) :
    (machine.run ⟨layout, true⟩ code).trace.toList
      = machine.snapshots layout (CodeWord.ofStream code) :=
  Run.trace_foldl_step layout (Run.start machine) _

/-- A run that is not verbose is the verbose run without its trace. -/
theorem run_silent (machine : Machine) (layout : Layout) (code : List UInt8) :
    machine.run ⟨layout, false⟩ code = (machine.run ⟨layout, true⟩ code).silent := by
  have hstart : (Run.start machine).silent = Run.start machine := rfl
  have hpieces := Run.foldl_step_silent layout (Run.start machine) (CodeWord.ofStream code)
  rw [hstart] at hpieces
  unfold run
  rw [hpieces]
  rfl

/-- A faulty word leaves the machine as it is. -/
theorem machine_run_take_of_mem_faults {machine : Machine} {options : RunOptions}
    {code : List UInt8} {fault : Fault} (h : fault ∈ (machine.run options code).faults) :
    (machine.run options (code.take (6 * (fault.index + 1)))).machine
      = (machine.run options (code.take (6 * fault.index))).machine := by
  have hcause := mem_faults_iff.mp h
  rw [getElem?_visitAll, Option.map_eq_some_iff] at hcause
  obtain ⟨piece, hpiece, hvisit⟩ := hcause
  obtain ⟨hlt, rfl⟩ := List.getElem?_eq_some_iff.mp hpiece
  rw [machine_run_take, machine_run_take, List.take_succ_eq_append_getElem hlt, visitAll_append,
    visitAll_cons, visit_of_fault hvisit]
  rfl

/-- The printed trace of a verbose run is put together from a block for each word that is read, be
    its instruction executed or not, and for no other piece of the stream.  The block names the
    instruction and shows the machine that the stream up to and with this word has reached, and a
    faulty word reaches the machine that was there before it.  Without a trace nothing is printed
    and all else is the same. -/
theorem run_traced (machine : Machine) (layout : Layout) (code : List UInt8) :
    let run := machine.run ⟨layout, true⟩ code
    let quiet := machine.run ⟨layout, false⟩ code
    let reached count := (machine.run ⟨layout, true⟩ (code.take (6 * count))).machine
    run.traceText = String.join ((CodeWord.ofStream code).zipIdx.filterMap fun (piece, index) =>
        (piece >>= CodeWord.decode layout).toOption.map fun instruction =>
          instruction.opcode.name ++ ": " ++ instruction.text ++ "\n" ++
            (reached (index + 1)).table ++ "\n") ∧
      (∀ fault ∈ run.faults, reached (fault.index + 1) = reached fault.index) ∧
      quiet.traceText = "" ∧ quiet = { run with trace := #[] } := by
  intro run quiet reached
  have hquiet : quiet = { run with trace := #[] } := machine.run_silent layout code
  refine ⟨?_, fun fault => machine_run_take_of_mem_faults, ?_, hquiet⟩
  · show String.join (run.trace.toList.map Snapshot.text) = _
    rw [trace_run, snapshots_eq_filterMap, List.map_filterMap]
    congr 2
    funext ⟨piece, index⟩
    simp only [snapshotAt?, Option.map_map, reached, machine_run_take]
    rfl
  · rw [hquiet]
    rfl

/-- A word that reads behind the memory is printed with the machine that was there before it. -/
theorem run_traced_outOfBounds :
    let code : List UInt8 :=
      [0xC3, 0x80, 0x3E, 0x00, 0x00, 0x00, 0x53, 0x08, 0x00, 0x00, 0x00, 0x00]
    let fault : Fault := ⟨1, .execution ⟨.memoryRead 0 1, .memory 2000⟩⟩
    let loaded := (zero.run ⟨.reference, true⟩ (code.take 6)).machine
    fault ∈ (zero.run ⟨.reference, true⟩ code).faults ∧
      (zero.run ⟨.reference, true⟩ (code.take 12)).machine = loaded ∧
      (zero.run ⟨.reference, true⟩ code).traceText
        = "LOAD_CONSTANT: LOAD_CONSTANT R0, #2000\n" ++ loaded.table ++ "\n" ++
            ("MEMORY_READ: MEMORY_READ R1, [R0]\n" ++ loaded.table ++ "\n") := by
  intro code fault loaded
  have hmem : fault ∈ (zero.run ⟨.reference, true⟩ code).faults := by
    refine Array.mem_toList_iff.mp ?_
    decide
  obtain ⟨htext, hfaults, -⟩ := run_traced zero .reference code
  have hsame : (zero.run ⟨.reference, true⟩ (code.take 12)).machine = loaded := hfaults fault hmem
  -- both words are read, whatever is made of them
  have hblocks : ∀ block : Instruction → Nat → String,
      ((CodeWord.ofStream code).zipIdx.filterMap fun entry =>
          (entry.1 >>= CodeWord.decode .reference).toOption.map (block · entry.2))
        = [block (.loadConstant 0 2000) 0, block (.memoryRead 0 1) 1] := fun _ => rfl
  have hload : (Instruction.loadConstant 0 2000).opcode.name ++ ": " ++
      (Instruction.loadConstant 0 2000).text ++ "\n"
        = "LOAD_CONSTANT: LOAD_CONSTANT R0, #2000\n" := by decide
  have hread : (Instruction.memoryRead 0 1).opcode.name ++ ": " ++
      (Instruction.memoryRead 0 1).text ++ "\n" = "MEMORY_READ: MEMORY_READ R1, [R0]\n" := by decide
  have hprinted := htext.trans (congrArg String.join (hblocks fun instruction index =>
    instruction.opcode.name ++ ": " ++ instruction.text ++ "\n" ++
      (zero.run ⟨.reference, true⟩ (code.take (6 * (index + 1)))).machine.table ++ "\n"))
  have hsecond : (zero.run ⟨.reference, true⟩ (code.take (6 * (1 + 1)))).machine = loaded := hsame
  rw [String.join_cons, String.join_cons, String.join_nil, String.append_empty, hload, hread,
    hsecond] at hprinted
  exact ⟨hmem, hsame, hprinted⟩

end Machine

end Quartet
