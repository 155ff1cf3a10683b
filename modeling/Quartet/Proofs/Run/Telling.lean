import Quartet.Proofs.Machine.Bounds
import Quartet.Proofs.Run.Course

namespace Quartet

/-!
# What a run tells

A run tells of each piece as it comes to it: first the instruction that the piece is read as, if
it is read, and then the fault that is found, if there is one.

* `Event.ofPiece?`, `Machine.tell`, `Machine.tellAll` — what is told about a piece, and about a
  list of pieces.
* `Machine.tell_cases` — the three things that can come of a piece.
* `Machine.events_run` — what a run tells, in these terms.
* `Machine.filter_warn_tellAll`, `Machine.filter_debug_tellAll`, `Machine.filter_info_tellAll` —
  what is told at each level.
* `Event.Announced` — instructions out of bounds are told right before their faults.
-/

namespace Event

/-- What is told of a piece as it is read: the instruction, if it is one. -/
def ofPiece? (layout : Layout) : Piece × Nat → Option Event
  | (piece, index) =>
    match piece >>= CodeWord.decode layout with
    | .ok instruction => some (.decoded index instruction)
    | .error _ => none

theorem ofPiece?_of_ok {layout : Layout} {piece : Piece} {instruction : Instruction} (index : Nat)
    (h : (piece >>= CodeWord.decode layout) = .ok instruction) :
    ofPiece? layout (piece, index) = some (.decoded index instruction) := by
  simp only [ofPiece?, h]

theorem ofPiece?_of_error {layout : Layout} {piece : Piece} {error : DecodeError} (index : Nat)
    (h : (piece >>= CodeWord.decode layout) = .error error) :
    ofPiece? layout (piece, index) = none := by
  simp only [ofPiece?, h]

end Event

/-! ### One piece -/

namespace Machine

/-- What is told about a piece: how it is read, and then what is wrong with it. -/
def tell (layout : Layout) (machine : Machine) (index : Nat) (piece : Piece) : List Event :=
  (Event.ofPiece? layout (piece, index)).toList ++
    (Fault.numbered index [(machine.visit layout piece).2]).map .faulted

/-- A piece is not read, or it is read and its instruction succeeds, or it is read and its
    instruction is out of bounds; this is what is told in each case. -/
theorem tell_cases (layout : Layout) (machine : Machine) (index : Nat) (piece : Piece) :
    (∃ error, Event.ofPiece? layout (piece, index) = none ∧
        machine.visit layout piece = (machine, some (.decoding error)) ∧
        machine.tell layout index piece = [.faulted ⟨index, .decoding error⟩]) ∨
      (∃ instruction after,
        Event.ofPiece? layout (piece, index) = some (.decoded index instruction) ∧
        machine.visit layout piece = (after, none) ∧
        machine.tell layout index piece = [.decoded index instruction]) ∨
      ∃ error : OutOfBounds,
        Event.ofPiece? layout (piece, index) = some (.decoded index error.instruction) ∧
        machine.visit layout piece = (machine, some (.execution error)) ∧
        machine.tell layout index piece
          = [.decoded index error.instruction, .faulted ⟨index, .execution error⟩] := by
  unfold tell
  cases hread : piece >>= CodeWord.decode layout with
  | error error =>
    have htold := Event.ofPiece?_of_error index hread
    have hvisit := visit_of_error machine hread
    refine .inl ⟨error, htold, hvisit, ?_⟩
    rw [htold, hvisit]
    rfl
  | ok instruction =>
    have htold := Event.ofPiece?_of_ok index hread
    have hvisit := visit_of_ok machine hread
    rcases attempt_cases machine instruction with
      ⟨after, -, hattempt⟩ | ⟨error, hexecute, hattempt⟩
    · rw [hattempt] at hvisit
      refine .inr (.inl ⟨instruction, after, htold, hvisit, ?_⟩)
      rw [htold, hvisit]
      rfl
    · -- the error is about the instruction itself
      obtain rfl := (execute_eq_error hexecute).same
      rw [hattempt] at hvisit
      refine .inr (.inr ⟨error, htold, hvisit, ?_⟩)
      rw [htold, hvisit]
      rfl

end Machine

/-- What a piece adds to the events of a run. -/
theorem Run.events_step (options : RunOptions) (run : Run) (piece : Piece) :
    (step options run piece).events.toList
      = run.events.toList ++ run.machine.tell options.layout run.words piece := by
  unfold step Machine.tell
  cases hread : piece >>= CodeWord.decode options.layout with
  | error error =>
    simp [Event.ofPiece?_of_error _ hread, Machine.visit_of_error _ hread, fault]
  | ok instruction =>
    rw [Event.ofPiece?_of_ok _ hread, Machine.visit_of_ok _ hread]
    cases hexecute : run.machine.execute instruction with
    | error error =>
      simp [Machine.attempt_of_error hexecute, execute_eq, hexecute, fault, record_eq]
    | ok after => simp [Machine.attempt_of_ok hexecute, execute_eq, hexecute, record_eq]

/-! ### Many pieces -/

namespace Machine

/-- What is told about a list of pieces, the first of which is at position `first`. -/
def tellAll (layout : Layout) (machine : Machine) (first : Nat) : List Piece → List Event
  | [] => []
  | piece :: rest =>
    machine.tell layout first piece ++
      (machine.visit layout piece).1.tellAll layout (first + 1) rest

@[simp] theorem tellAll_nil (layout : Layout) (machine : Machine) (first : Nat) :
    machine.tellAll layout first [] = [] := rfl

@[simp] theorem tellAll_cons (layout : Layout) (machine : Machine) (first : Nat) (piece : Piece)
    (rest : List Piece) :
    machine.tellAll layout first (piece :: rest)
      = machine.tell layout first piece ++
          (machine.visit layout piece).1.tellAll layout (first + 1) rest := rfl

end Machine

/-- What a list of pieces adds to the events of a run. -/
theorem Run.events_foldl_step (options : RunOptions) (run : Run) (pieces : List Piece) :
    (pieces.foldl (step options) run).events.toList
      = run.events.toList ++ run.machine.tellAll options.layout run.words pieces := by
  induction pieces generalizing run with
  | nil => simp
  | cons piece rest ih =>
    obtain ⟨hmachine, hwords, -⟩ := step_spec options run piece
    rw [List.foldl_cons, ih, events_step, hmachine, hwords, Machine.tellAll_cons,
      List.append_assoc]

/-- A run tells of its pieces, and then that it has come to the end. -/
theorem Machine.events_run (machine : Machine) (options : RunOptions) (code : List UInt8) :
    let run := machine.run options code
    run.events.toList
      = machine.tellAll options.layout 0 (CodeWord.ofStream code) ++
        [.runFinished run.words run.executed run.faults.size] := by
  have hevents := Run.events_foldl_step options (Run.start machine) (CodeWord.ofStream code)
  intro run
  have hfinish : run = Run.finish ((CodeWord.ofStream code).foldl _ _) := rfl
  rw [hfinish, Run.finish, Array.toList_push, hevents]
  rfl

/-! ### Levels -/

namespace Machine

section

variable (layout : Layout) (machine : Machine) (first : Nat) (pieces : List Piece)

/-- The warnings are the faults, in order. -/
theorem filter_warn_tellAll :
    (machine.tellAll layout first pieces).filter (·.level = .warn)
      = (Fault.numbered first (machine.visitAll layout pieces).2).map .faulted := by
  induction pieces generalizing machine first with
  | nil => rfl
  | cons piece rest ih =>
    rw [tellAll_cons, List.filter_append, ih, visitAll_cons]
    rcases tell_cases layout machine first piece with
      ⟨error, -, hvisit, htell⟩ | ⟨instruction, after, -, hvisit, htell⟩ |
        ⟨error, -, hvisit, htell⟩ <;>
    · rw [htell, hvisit]
      rfl

/-- The instructions that are read are told, in order and with their positions. -/
theorem filter_debug_tellAll :
    (machine.tellAll layout first pieces).filter (·.level = .debug)
      = (pieces.zipIdx first).filterMap (Event.ofPiece? layout) := by
  induction pieces generalizing machine first with
  | nil => rfl
  | cons piece rest ih =>
    rw [tellAll_cons, List.filter_append, ih, List.zipIdx_cons, List.filterMap_cons]
    rcases tell_cases layout machine first piece with
      ⟨error, hread, -, htell⟩ | ⟨instruction, after, hread, -, htell⟩ |
        ⟨error, hread, -, htell⟩ <;>
    · rw [htell, hread]
      rfl

variable {layout machine first pieces} in
/-- Before the end, faults and instructions are told and nothing else. -/
theorem level_of_mem_tellAll {event : Event} (h : event ∈ machine.tellAll layout first pieces) :
    event.level = .warn ∨ event.level = .debug := by
  induction pieces generalizing machine first with
  | nil => cases h
  | cons piece rest ih =>
    rw [tellAll_cons, List.mem_append] at h
    rcases h with h | h
    · rcases tell_cases layout machine first piece with
        ⟨error, -, -, htell⟩ | ⟨instruction, after, -, -, htell⟩ | ⟨error, -, -, htell⟩
      · rw [htell, List.mem_singleton] at h
        exact .inl (h ▸ rfl)
      · rw [htell, List.mem_singleton] at h
        exact .inr (h ▸ rfl)
      · rw [htell, List.mem_cons, List.mem_singleton] at h
        rcases h with rfl | rfl
        · exact .inr rfl
        · exact .inl rfl
    · exact ih h

/-- Nothing is told before the end that is neither. -/
theorem filter_info_tellAll :
    (machine.tellAll layout first pieces).filter (·.level = .info) = [] := by
  rw [List.filter_eq_nil_iff]
  intro event hmem
  rcases level_of_mem_tellAll hmem with hlevel | hlevel <;>
  · rw [hlevel]
    decide

end

/-- No run tells of an error. -/
theorem level_ne_error_of_mem_events {machine : Machine} {options : RunOptions}
    {code : List UInt8} {event : Event} (h : event ∈ (machine.run options code).events.toList) :
    event.level ≠ .error := by
  rw [events_run, List.mem_append, List.mem_singleton] at h
  rcases h with h | rfl
  · rcases level_of_mem_tellAll h with hlevel | hlevel <;>
    · rw [hlevel]
      decide
  · nofun

end Machine

/-! ### Announced faults -/

namespace Event

/-- Whether each fault of execution stands right behind the instruction that it is about, at the
    same position. -/
def Announced (events : List Event) : Prop :=
  ∀ before fault error after, events = before ++ .faulted fault :: after →
    fault.cause = .execution error →
    ∃ earlier, before = earlier ++ [.decoded fault.index error.instruction]

theorem Announced.append {first second : List Event} (h : Announced first)
    (h' : Announced second) : Announced (first ++ second) := by
  intro before fault error after hsplit hcause
  rcases List.append_eq_append_iff.mp hsplit with
    ⟨more, rfl, hsecond⟩ | ⟨more, hfirst, hafter⟩
  · -- the fault is among the second events
    obtain ⟨earlier, rfl⟩ := h' more fault error after hsecond hcause
    exact ⟨first ++ earlier, (List.append_assoc _ _ _).symm⟩
  · cases more with
    | nil =>
      -- the fault would be the first of the second events, with nothing before it
      obtain ⟨earlier, hnil⟩ := h' [] fault error after hafter.symm hcause
      simp at hnil
    | cons event more =>
      obtain ⟨rfl, -⟩ := List.cons.inj hafter
      exact h before fault error more hfirst hcause

/-- Events that are no faults of execution need no announcement. -/
theorem announced_singleton {event : Event}
    (h : ∀ index error, event ≠ .faulted ⟨index, .execution error⟩) : Announced [event] := by
  rintro before ⟨index, cause⟩ error after hsplit rfl
  have hmem : Event.faulted ⟨index, .execution error⟩ ∈ [event] := by simp [hsplit]
  exact absurd (List.mem_singleton.mp hmem).symm (h index error)

/-- An instruction is an announcement of its fault. -/
theorem announced_pair (index : Nat) (error : OutOfBounds) :
    Announced [.decoded index error.instruction, .faulted ⟨index, .execution error⟩] := by
  intro before fault other after hsplit hcause
  cases before with
  | nil => simp at hsplit
  | cons event before =>
    obtain ⟨rfl, hrest⟩ := List.cons.inj hsplit
    cases before with
    | nil =>
      obtain ⟨hfault, -⟩ := List.cons.inj hrest
      cases hfault
      cases hcause
      exact ⟨[], rfl⟩
    | cons event before => simp at hrest

end Event

namespace Machine

/-- What is told about a piece has its fault announced. -/
theorem announced_tell (layout : Layout) (machine : Machine) (index : Nat) (piece : Piece) :
    Event.Announced (machine.tell layout index piece) := by
  rcases tell_cases layout machine index piece with
    ⟨error, -, -, htell⟩ | ⟨instruction, after, -, -, htell⟩ | ⟨error, -, -, htell⟩ <;> rw [htell]
  · exact Event.announced_singleton (by simp)
  · exact Event.announced_singleton (by simp)
  · exact Event.announced_pair index error

/-- What is told about a list of pieces has its faults announced. -/
theorem announced_tellAll (layout : Layout) (machine : Machine) (first : Nat)
    (pieces : List Piece) : Event.Announced (machine.tellAll layout first pieces) := by
  induction pieces generalizing machine first with
  | nil =>
    intro before fault error after hsplit
    simp at hsplit
  | cons piece rest ih => exact (announced_tell layout machine first piece).append (ih _ _)

end Machine

end Quartet
