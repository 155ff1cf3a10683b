import Quartet.Proofs.Machine.InPlace

namespace Quartet

/-!
# The course of a run

A run goes through the pieces of a stream one after the other.  At each piece the machine
changes or the piece is found faulty, and this is all that the summary of the run is made from.

* `Machine.attempt`, `Machine.visit` — what one instruction does, and one piece.
* `Machine.visitAll` — what a list of pieces does.
* `Machine.visitAll_invariant`, `Machine.exists_of_mem_visitAll` — what the instructions of a list
  of pieces keep, and where its faults come from.
* `Machine.getElem?_visitAll` — what is wrong with the piece at a position.
* `Fault.numbered` — faults at their positions.
* `Machine.machine_run`, `Machine.words_run`, `Machine.executed_run`, `Machine.faults_run`,
  `Machine.mem_faults_iff` — what a run leaves behind, in these terms.
-/

/-- A word of a stream, or the error that stands for the fragment at its end. -/
abbrev Piece := Except DecodeError CodeWord

namespace Machine

/-- The machine after an instruction, which a failing one leaves alone, and what is wrong with
    the instruction, if anything is. -/
def attempt (machine : Machine) (instruction : Instruction) : Machine × Option Fault.Cause :=
  match machine.execute instruction with
  | .ok after => (after, none)
  | .error error => (machine, some (.execution error))

/-- The machine after a piece, and what is wrong with the piece, if anything is. -/
def visit (layout : Layout) (machine : Machine) (piece : Piece) :
    Machine × Option Fault.Cause :=
  match piece >>= CodeWord.decode layout with
  | .error error => (machine, some (.decoding error))
  | .ok instruction => machine.attempt instruction

/-- The machine after a list of pieces, and what is wrong with each of them. -/
def visitAll (layout : Layout) (machine : Machine) : List Piece →
    Machine × List (Option Fault.Cause)
  | [] => (machine, [])
  | piece :: rest =>
    let (after, cause) := machine.visit layout piece
    let (last, causes) := after.visitAll layout rest
    (last, cause :: causes)

theorem attempt_of_ok {machine after : Machine} {instruction : Instruction}
    (h : machine.execute instruction = .ok after) :
    machine.attempt instruction = (after, none) := by
  rw [attempt, h]

theorem attempt_of_error {machine : Machine} {instruction : Instruction} {error : OutOfBounds}
    (h : machine.execute instruction = .error error) :
    machine.attempt instruction = (machine, some (.execution error)) := by
  rw [attempt, h]

theorem visit_of_ok {layout : Layout} {piece : Piece} {instruction : Instruction}
    (machine : Machine) (h : (piece >>= CodeWord.decode layout) = .ok instruction) :
    machine.visit layout piece = machine.attempt instruction := by
  rw [visit, h]

theorem visit_of_error {layout : Layout} {piece : Piece} {error : DecodeError}
    (machine : Machine) (h : (piece >>= CodeWord.decode layout) = .error error) :
    machine.visit layout piece = (machine, some (.decoding error)) := by
  rw [visit, h]

/-- An instruction succeeds, or it is at fault and changes nothing. -/
theorem attempt_cases (machine : Machine) (instruction : Instruction) :
    (∃ after, machine.execute instruction = .ok after ∧
        machine.attempt instruction = (after, none)) ∨
      ∃ error, machine.execute instruction = .error error ∧
        machine.attempt instruction = (machine, some (.execution error)) := by
  cases h : machine.execute instruction with
  | ok after => exact .inl ⟨after, rfl, attempt_of_ok h⟩
  | error error => exact .inr ⟨error, rfl, attempt_of_error h⟩

/-- A piece cannot be read and changes nothing, or it is a word that is read as an instruction,
    which is then attempted. -/
theorem visit_cases (layout : Layout) (machine : Machine) (piece : Piece) :
    (∃ error, (piece >>= CodeWord.decode layout) = .error error ∧
        machine.visit layout piece = (machine, some (.decoding error))) ∨
      ∃ word instruction, piece = .ok word ∧ CodeWord.decode layout word = .ok instruction ∧
        machine.visit layout piece = machine.attempt instruction := by
  cases h : piece >>= CodeWord.decode layout with
  | error error => exact .inl ⟨error, rfl, visit_of_error machine h⟩
  | ok instruction =>
    obtain ⟨word, hword, hread⟩ := bind_eq_ok_iff.mp h
    exact .inr ⟨word, instruction, hword, hread, visit_of_ok machine h⟩

/-- A piece that is found faulty changes nothing. -/
theorem visit_of_fault {layout : Layout} {machine : Machine} {piece : Piece} {cause : Fault.Cause}
    (h : (machine.visit layout piece).2 = some cause) :
    machine.visit layout piece = (machine, some cause) := by
  rcases visit_cases layout machine piece with ⟨error, -, hvisit⟩ | ⟨_, instruction, -, -, hvisit⟩
  · rw [hvisit] at h ⊢
    exact congrArg (Prod.mk machine) h
  · rcases attempt_cases machine instruction with ⟨after, -, hattempt⟩ | ⟨error, -, hattempt⟩
    · rw [hvisit, hattempt] at h
      cases h
    · rw [hvisit, hattempt] at h ⊢
      exact congrArg (Prod.mk machine) h

@[simp] theorem visitAll_nil (layout : Layout) (machine : Machine) :
    machine.visitAll layout [] = (machine, []) := rfl

@[simp] theorem visitAll_cons (layout : Layout) (machine : Machine) (piece : Piece)
    (rest : List Piece) :
    machine.visitAll layout (piece :: rest)
      = (((machine.visit layout piece).1.visitAll layout rest).1,
          (machine.visit layout piece).2 ::
            ((machine.visit layout piece).1.visitAll layout rest).2) := rfl

/-- Each piece is found faulty or not. -/
@[simp] theorem length_visitAll (layout : Layout) (machine : Machine) (pieces : List Piece) :
    (machine.visitAll layout pieces).2.length = pieces.length := by
  induction pieces generalizing machine with
  | nil => rfl
  | cons piece rest ih => rw [visitAll_cons, List.length_cons, List.length_cons, ih]

/-- What is wrong with a piece is found out on the machine that the pieces before it have left. -/
theorem getElem?_visitAll (layout : Layout) (machine : Machine) (pieces : List Piece)
    (index : Nat) :
    (machine.visitAll layout pieces).2[index]?
      = pieces[index]?.map fun piece =>
          ((machine.visitAll layout (pieces.take index)).1.visit layout piece).2 := by
  induction pieces generalizing machine index with
  | nil => rfl
  | cons piece rest ih =>
    cases index with
    | zero => rfl
    | succ index =>
      rw [visitAll_cons, List.getElem?_cons_succ, List.getElem?_cons_succ, ih, List.take_succ_cons,
        visitAll_cons]

/-- What each instruction of a list of pieces keeps when it succeeds, the list keeps. -/
theorem visitAll_invariant {P : Machine → Prop} {layout : Layout} {pieces : List Piece}
    (hstep : ∀ machine after instruction word, .ok word ∈ pieces →
      CodeWord.decode layout word = .ok instruction → machine.execute instruction = .ok after →
      P machine → P after)
    {machine : Machine} (h : P machine) : P (machine.visitAll layout pieces).1 := by
  induction pieces generalizing machine with
  | nil => exact h
  | cons piece rest ih =>
    have hafter : P (machine.visit layout piece).1 := by
      rcases visit_cases layout machine piece with
        ⟨error, -, hvisit⟩ | ⟨word, instruction, rfl, hread, hvisit⟩
      · rw [hvisit]
        exact h
      · rcases attempt_cases machine instruction with
          ⟨after, hexecute, hattempt⟩ | ⟨error, -, hattempt⟩
        · rw [hvisit, hattempt]
          exact hstep _ _ _ _ (.head _) hread hexecute h
        · rw [hvisit, hattempt]
          exact h
    rw [visitAll_cons]
    exact ih (fun _ _ _ _ hmem => hstep _ _ _ _ (.tail _ hmem)) hafter

/-- An error of execution among a list of pieces is that of an instruction one of them is read
    as, on the machine as it was when its turn came. -/
theorem exists_of_mem_visitAll {layout : Layout} {machine : Machine} {pieces : List Piece}
    {error : OutOfBounds} (h : some (.execution error) ∈ (machine.visitAll layout pieces).2) :
    ∃ word instruction, .ok word ∈ pieces ∧ CodeWord.decode layout word = .ok instruction ∧
      ∃ before : Machine, before.execute instruction = .error error := by
  induction pieces generalizing machine with
  | nil => cases h
  | cons piece rest ih =>
    rw [visitAll_cons] at h
    rcases List.mem_cons.mp h with hfirst | hrest
    · rcases visit_cases layout machine piece with
        ⟨_, -, hvisit⟩ | ⟨word, instruction, rfl, hread, hvisit⟩
      · rw [hvisit] at hfirst
        cases hfirst
      · rw [hvisit] at hfirst
        rcases attempt_cases machine instruction with ⟨_, -, hattempt⟩ | ⟨_, hexecute, hattempt⟩
        · rw [hattempt] at hfirst
          cases hfirst
        · rw [hattempt] at hfirst
          cases hfirst
          exact ⟨word, instruction, .head _, hread, machine, hexecute⟩
    · obtain ⟨word, instruction, hmem, hread, hbefore⟩ := ih hrest
      exact ⟨word, instruction, .tail _ hmem, hread, hbefore⟩

end Machine

/-- Faults at their positions in a stream, the first of which is `first`. -/
def Fault.numbered (first : Nat) (causes : List (Option Fault.Cause)) : List Fault :=
  (causes.zipIdx first).filterMap fun (cause, index) => cause.map (Fault.mk index)

namespace Fault

@[simp] theorem numbered_nil (first : Nat) : numbered first [] = [] := rfl

@[simp] theorem numbered_none (first : Nat) (causes : List (Option Fault.Cause)) :
    numbered first (none :: causes) = numbered (first + 1) causes := rfl

@[simp] theorem numbered_some (first : Nat) (cause : Fault.Cause)
    (causes : List (Option Fault.Cause)) :
    numbered first (some cause :: causes) = ⟨first, cause⟩ :: numbered (first + 1) causes := rfl

/-- A fault is numbered with the position where its cause was found. -/
theorem mem_numbered_iff {first : Nat} {causes : List (Option Fault.Cause)} {fault : Fault} :
    fault ∈ numbered first causes ↔
      ∃ index, fault.index = first + index ∧ causes[index]? = some (some fault.cause) := by
  induction causes generalizing first with
  | nil => simp
  | cons cause? rest ih =>
    -- the fault is that of the first piece, or that of a later one
    constructor
    · intro h
      cases cause? with
      | none =>
        obtain ⟨index, hindex, hcause⟩ := ih.mp h
        exact ⟨index + 1, by omega, hcause⟩
      | some cause =>
        rcases List.mem_cons.mp h with rfl | h
        · exact ⟨0, rfl, rfl⟩
        · obtain ⟨index, hindex, hcause⟩ := ih.mp h
          exact ⟨index + 1, by omega, hcause⟩
    · rintro ⟨index, hindex, hcause⟩
      cases index with
      | zero =>
        obtain rfl : cause? = some fault.cause := Option.some.inj hcause
        obtain rfl : fault.index = first := hindex
        exact List.mem_cons_self
      | succ index =>
        have hlater : fault ∈ numbered (first + 1) rest := ih.mpr ⟨index, by omega, hcause⟩
        cases cause? with
        | none => exact hlater
        | some cause => exact List.mem_cons_of_mem _ hlater

/-- The cause of a numbered fault is among those that were numbered. -/
theorem cause_mem_of_mem_numbered {first : Nat} {causes : List (Option Fault.Cause)}
    {fault : Fault} (h : fault ∈ numbered first causes) : some fault.cause ∈ causes := by
  obtain ⟨index, -, hcause⟩ := mem_numbered_iff.mp h
  exact List.mem_of_getElem? hcause

/-- The numbers of faults increase. -/
theorem pairwise_numbered (first : Nat) (causes : List (Option Fault.Cause)) :
    (numbered first causes).Pairwise (·.index < ·.index) := by
  induction causes generalizing first with
  | nil => exact .nil
  | cons cause? rest ih =>
    cases cause? with
    | none => exact ih (first + 1)
    | some cause =>
      refine .cons (fun fault hmem => ?_) (ih (first + 1))
      obtain ⟨index, hindex, -⟩ := mem_numbered_iff.mp hmem
      show first < fault.index
      omega

/-- There is a fault for each piece that something is wrong with. -/
theorem count_none_add_length_numbered (first : Nat) (causes : List (Option Fault.Cause)) :
    causes.count none + (numbered first causes).length = causes.length := by
  induction causes generalizing first with
  | nil => rfl
  | cons cause? rest ih =>
    have hrest := ih (first + 1)
    cases cause? with
    | none =>
      rw [List.count_cons_self, numbered_none, List.length_cons]
      omega
    | some cause =>
      rw [List.count_cons_of_ne (by simp), numbered_some, List.length_cons, List.length_cons]
      omega

end Fault

/-! ### One piece -/

namespace Run

/-- What is recorded is added to the trace, and the rest of the run stays. -/
theorem record_eq (options : RunOptions) (instruction : Instruction) (run : Run) :
    run.record options instruction
      = { run with
          trace := run.trace ++
            if options.verbose then #[⟨instruction, run.machine⟩] else #[] } := by
  unfold record
  split
  · rfl
  · simp

/-- What a piece is to a run: everything but what is told and recorded. -/
theorem step_spec (options : RunOptions) (run : Run) (piece : Piece) :
    (step options run piece).machine = (run.machine.visit options.layout piece).1 ∧
      (step options run piece).words = run.words + 1 ∧
      (step options run piece).executed
        = run.executed + [(run.machine.visit options.layout piece).2].count none ∧
      (step options run piece).faults.toList
        = run.faults.toList ++
          Fault.numbered run.words [(run.machine.visit options.layout piece).2] := by
  unfold step
  cases hread : piece >>= CodeWord.decode options.layout with
  | error error => simp [Machine.visit_of_error _ hread, fault]
  | ok instruction =>
    rw [Machine.visit_of_ok _ hread]
    cases hexecute : run.machine.execute instruction with
    | error error =>
      simp [Machine.attempt_of_error hexecute, execute_eq, hexecute, fault, record_eq]
    | ok after => simp [Machine.attempt_of_ok hexecute, execute_eq, hexecute, record_eq]

/-! ### A list of pieces -/

/-- What a list of pieces is to a run. -/
theorem foldl_step_spec (options : RunOptions) (run : Run) (pieces : List Piece) :
    (pieces.foldl (step options) run).machine
        = (run.machine.visitAll options.layout pieces).1 ∧
      (pieces.foldl (step options) run).words = run.words + pieces.length ∧
      (pieces.foldl (step options) run).executed
        = run.executed + (run.machine.visitAll options.layout pieces).2.count none ∧
      (pieces.foldl (step options) run).faults.toList
        = run.faults.toList ++
          Fault.numbered run.words (run.machine.visitAll options.layout pieces).2 := by
  -- the run so far varies, since each piece is another step of it
  induction pieces generalizing run with
  | nil => simp
  | cons piece rest ih =>
    obtain ⟨hmachine, hwords, hexecuted, hfaults⟩ := step_spec options run piece
    obtain ⟨hmachine', hwords', hexecuted', hfaults'⟩ := ih (step options run piece)
    rw [hmachine] at hmachine' hexecuted' hfaults'
    rw [hwords] at hwords' hfaults'
    refine ⟨hmachine', ?_, ?_, ?_⟩
    · rw [List.foldl_cons, hwords', List.length_cons]
      omega
    · rw [List.foldl_cons, hexecuted', hexecuted, Machine.visitAll_cons, List.count_cons,
        List.count_cons, List.count_nil]
      omega
    · rw [List.foldl_cons, hfaults', hfaults, List.append_assoc, Machine.visitAll_cons]
      cases (run.machine.visit options.layout piece).2 <;> simp

end Run

/-! ### A whole stream -/

namespace Machine

theorem machine_run (machine : Machine) (options : RunOptions) (code : List UInt8) :
    (machine.run options code).machine
      = (machine.visitAll options.layout (CodeWord.ofStream code)).1 :=
  (Run.foldl_step_spec options (Run.start machine) _).1

theorem words_run (machine : Machine) (options : RunOptions) (code : List UInt8) :
    (machine.run options code).words = (CodeWord.ofStream code).length := by
  have h := (Run.foldl_step_spec options (Run.start machine) (CodeWord.ofStream code)).2.1
  rw [Run.start, Nat.zero_add] at h
  exact h

theorem executed_run (machine : Machine) (options : RunOptions) (code : List UInt8) :
    (machine.run options code).executed
      = (machine.visitAll options.layout (CodeWord.ofStream code)).2.count none := by
  have h := (Run.foldl_step_spec options (Run.start machine) (CodeWord.ofStream code)).2.2.1
  rw [Run.start, Nat.zero_add] at h
  exact h

theorem faults_run (machine : Machine) (options : RunOptions) (code : List UInt8) :
    (machine.run options code).faults.toList
      = Fault.numbered 0 (machine.visitAll options.layout (CodeWord.ofStream code)).2 :=
  (Run.foldl_step_spec options (Run.start machine) _).2.2.2

/-- A fault of a run stands at the position where its cause was found. -/
theorem mem_faults_iff {machine : Machine} {options : RunOptions} {code : List UInt8}
    {fault : Fault} :
    fault ∈ (machine.run options code).faults ↔
      (machine.visitAll options.layout (CodeWord.ofStream code)).2[fault.index]?
        = some (some fault.cause) := by
  rw [← Array.mem_toList_iff, faults_run, Fault.mem_numbered_iff]
  constructor
  · rintro ⟨index, hindex, hcause⟩
    rwa [hindex, Nat.zero_add]
  · intro hcause
    exact ⟨fault.index, (Nat.zero_add _).symm, hcause⟩

/-- A fault of execution is the error of an instruction that a word of the stream is read as. -/
theorem exists_of_mem_faults {machine : Machine} {options : RunOptions} {code : List UInt8}
    {fault : Fault} {error : OutOfBounds} (hmem : fault ∈ (machine.run options code).faults)
    (hcause : fault.cause = .execution error) :
    ∃ word instruction, .ok word ∈ CodeWord.ofStream code ∧
      CodeWord.decode options.layout word = .ok instruction ∧
      ∃ before : Machine, before.execute instruction = .error error := by
  rw [← Array.mem_toList_iff, faults_run] at hmem
  have hsome := Fault.cause_mem_of_mem_numbered hmem
  rw [hcause] at hsome
  exact exists_of_mem_visitAll hsome

end Machine

end Quartet
