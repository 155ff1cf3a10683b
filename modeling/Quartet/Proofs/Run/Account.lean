import Quartet.Proofs.CodeWord.Cutting
import Quartet.Proofs.CodeWord.Reading
import Quartet.Proofs.Run.Telling
import Quartet.Proofs.Text.Delimiting

namespace Quartet

/-!
# The account of a run

A run accounts for each word of its stream once: the word is counted, it is executed or at fault,
and what has become of it is told.

* `Machine.mem_faults_decoding_iff` — the faults of words that cannot be read.
* `Machine.mem_faults_truncated_iff` — the one fault of a fragment.
* `Fault.message_eq_iff`, `Machine.nodup_messages_run` — the messages of faults.
* `Run.Counts` — what the summary of a run says of a stream.
* `Run.Tells` — what a run tells of a stream.
* `Machine.run_account` — every run of every stream.
-/

/-! ### Faults of words that cannot be read -/

namespace Machine

/-- A piece has an error of decoding for its fault exactly if it is not read. -/
theorem visit_eq_decoding_iff (layout : Layout) (machine : Machine) (piece : Piece)
    (error : DecodeError) :
    (machine.visit layout piece).2 = some (.decoding error) ↔
      (piece >>= CodeWord.decode layout) = .error error := by
  rcases visit_cases layout machine piece with
    ⟨unread, hread, hvisit⟩ | ⟨word, instruction, rfl, hread, hvisit⟩
  · rw [hvisit, hread]
    simp
  · have hok : ((.ok word : Piece) >>= CodeWord.decode layout) = .ok instruction := hread
    rw [hvisit, hok]
    rcases attempt_cases machine instruction with ⟨after, -, hattempt⟩ | ⟨missing, -, hattempt⟩ <;>
      simp [hattempt]

section

variable {machine : Machine} {options : RunOptions} {code : List UInt8} {fault : Fault}

/-- The faults of decoding are those of the pieces that are not read. -/
theorem mem_faults_decoding_iff {index : Nat} {error : DecodeError} :
    ⟨index, .decoding error⟩ ∈ (machine.run options code).faults ↔
      ∃ piece, (CodeWord.ofStream code)[index]? = some piece ∧
        (piece >>= CodeWord.decode options.layout) = .error error := by
  rw [mem_faults_iff, getElem?_visitAll, Option.map_eq_some_iff]
  exact exists_congr fun piece => and_congr_right fun _ => visit_eq_decoding_iff _ _ piece error

/-- A fragment at the end of a stream has the fault that is its own, and no other piece has. -/
theorem mem_faults_truncated_iff {index length : Nat} :
    ⟨index, .decoding (.truncatedWord length)⟩ ∈ (machine.run options code).faults ↔
      index = code.length / 6 ∧ code.length % 6 ≠ 0 ∧ length = code.length % 6 := by
  have hfragment := CodeWord.getElem?_ofStream_eq_error_iff code index (.truncatedWord length)
  rw [DecodeError.truncatedWord.injEq] at hfragment
  rw [mem_faults_decoding_iff, ← hfragment]
  constructor
  · rintro ⟨piece, hpiece, hread⟩
    cases piece with
    | error error =>
      cases hread
      exact hpiece
    | ok word =>
      -- a word is not read for another reason
      obtain ⟨-, hunknown⟩ := (CodeWord.decode_eq_error_iff _ _ _).mp hread
      cases hunknown
  · intro hpiece
    exact ⟨_, hpiece, rfl⟩

/-- No word is ever read as one of another opcode. -/
theorem not_mem_faults_invalid {index : Nat} {expected : Opcode} {found : UInt8} :
    ⟨index, .decoding (.invalidOpcode expected found)⟩ ∉ (machine.run options code).faults := by
  rw [mem_faults_decoding_iff]
  rintro ⟨piece, hpiece, hread⟩
  cases piece with
  | error error =>
    cases hread
    obtain ⟨-, -, hfragment⟩ := (CodeWord.getElem?_ofStream_eq_error_iff _ _ _).mp hpiece
    cases hfragment
  | ok word =>
    obtain ⟨-, hunknown⟩ := (CodeWord.decode_eq_error_iff _ _ _).mp hread
    cases hunknown

/-- The position of a fault is that of a word. -/
theorem index_lt_words (h : fault ∈ (machine.run options code).faults) :
    fault.index < (machine.run options code).words := by
  have hindex := (List.getElem?_eq_some_iff.mp (mem_faults_iff.mp h)).1
  rwa [length_visitAll, ← words_run machine options code] at hindex

/-- The fault at the position of the last word is the last fault. -/
theorem getLast?_faults (h : fault ∈ (machine.run options code).faults)
    (hlast : fault.index + 1 = (machine.run options code).words) :
    (machine.run options code).faults.toList.getLast? = some fault := by
  have hmem := Array.mem_toList_iff.mpr h
  have hincreasing := Fault.pairwise_numbered 0
    (machine.visitAll options.layout (CodeWord.ofStream code)).2
  rw [← faults_run] at hincreasing
  rcases List.eq_nil_or_concat' (machine.run options code).faults.toList with
    hnil | ⟨earlier, last, hconcat⟩
  · rw [hnil] at hmem
    cases hmem
  · have hfault : last ∈ (machine.run options code).faults := by
      rw [← Array.mem_toList_iff, hconcat]
      simp
    have hbelow := index_lt_words hfault
    rw [hconcat] at hmem hincreasing ⊢
    rw [List.getLast?_concat]
    rcases List.mem_append.mp hmem with hearlier | hsame
    · -- the last fault would stand behind the last word
      have hlt : fault.index < last.index :=
        (List.pairwise_append.mp hincreasing).2.2 fault hearlier last (List.mem_singleton_self _)
      omega
    · rw [List.mem_singleton.mp hsame]

end

end Machine

/-! ### Messages -/

/-- The message of a fault tells its position and the message of its cause. -/
theorem Fault.message_eq_iff (fault other : Fault) :
    fault.message = other.message ↔
      fault.index = other.index ∧ fault.cause.message = other.cause.message := by
  have htoList : ∀ fault : Fault, fault.message.toList = "word ".toList ++
      ((toString fault.index).toList ++ ':' :: (' ' :: fault.cause.message.toList)) := by
    intro fault
    simp only [message, String.toList_append, List.append_assoc]
    rfl
  constructor
  · intro h
    have hchars := congrArg String.toList h
    rw [htoList, htoList] at hchars
    obtain ⟨hindex, hrest⟩ :=
      Text.toString_append_cons_inj (by decide) (List.append_cancel_left hchars)
    exact ⟨hindex, String.toList_inj.mp (List.cons.inj hrest).2⟩
  · rintro ⟨hindex, hcause⟩
    rw [message, message, hindex, hcause]

/-- No two faults of a run have the same message. -/
theorem Machine.nodup_messages_run (machine : Machine) (options : RunOptions)
    (code : List UInt8) : ((machine.run options code).faults.toList.map Fault.message).Nodup := by
  rw [faults_run]
  refine List.pairwise_map.mpr ((Fault.pairwise_numbered _ _).imp fun hlt hsame => ?_)
  exact absurd ((Fault.message_eq_iff _ _).mp hsame).1 (Nat.ne_of_lt hlt)

/-! ### Summary and events -/

/-- How an event is shown: its text and its details. -/
def Event.shown (event : Event) : String × List (String × Detail) :=
  (event.message, event.details)

namespace Run

/-- What the summary of a run says of a stream. -/
structure Counts (run : Run) (code : List UInt8) : Prop where
  /-- Every six bytes that begin count as a word. -/
  words : run.words = (code.length + 5) / 6
  /-- A word is executed or at fault. -/
  executed : run.executed + run.faults.size = run.words
  /-- Faults are found in the order of the words. -/
  increasing : run.faults.toList.Pairwise (·.index < ·.index)
  below : ∀ fault ∈ run.faults, fault.index < run.words
  /-- There is a fragment exactly if the bytes do not come out even. -/
  truncated : (∃ fault ∈ run.faults, ∃ length,
    fault.cause = .decoding (.truncatedWord length)) ↔ code.length % 6 ≠ 0
  /-- The fragment is the last word, and its fault is the last fault. -/
  last : ∀ fault ∈ run.faults, ∀ length, fault.cause = .decoding (.truncatedWord length) →
    run.faults.toList.getLast? = some fault ∧ fault.index = run.words - 1 ∧
      length = code.length % 6
  /-- No word is ever read as one of another opcode. -/
  known : ∀ fault ∈ run.faults, ∀ expected found,
    fault.cause ≠ .decoding (.invalidOpcode expected found)

/-- What a run tells of a stream. -/
structure Tells (run : Run) (layout : Layout) (code : List UInt8) : Prop where
  /-- The warnings are the faults. -/
  warnings : run.events.toList.filter (·.level = .warn) = run.faults.toList.map .faulted
  /-- A warning is shown with its position and the text of its cause. -/
  warningsShown : (run.events.toList.filter (·.level = .warn)).map Event.shown
    = run.faults.toList.map fun fault => (fault.cause.message, [("index", .number fault.index)])
  /-- The instructions are those of the words that are read. -/
  instructions : run.events.toList.filter (·.level = .debug)
    = (CodeWord.ofStream code).zipIdx.filterMap (Event.ofPiece? layout)
  /-- An instruction is shown with its position and its text. -/
  instructionsShown : (run.events.toList.filter (·.level = .debug)).map Event.shown
    = (CodeWord.ofStream code).zipIdx.filterMap fun (piece, index) =>
        (piece >>= CodeWord.decode layout).toOption.map fun instruction =>
          (instruction.text, [("index", .number index)])
  /-- An instruction that is out of bounds is told right before its fault. -/
  announced : Event.Announced run.events.toList
  /-- The end is told once, with the counts of the summary, and then nothing else. -/
  finished : run.events.toList.filter (·.level = .info)
    = [.runFinished run.words run.executed run.faults.size]
  finishedShown : (run.events.toList.filter (·.level = .info)).map Event.shown
    = [("run finished", [("words", .number run.words), ("executed", .number run.executed),
        ("faults", .number run.faults.size)])]
  last : run.events.toList.getLast? = some (.runFinished run.words run.executed run.faults.size)

end Run

namespace Machine

theorem counts_run (machine : Machine) (options : RunOptions) (code : List UInt8) :
    (machine.run options code).Counts code := by
  have hwords : (machine.run options code).words = (code.length + 5) / 6 := by
    rw [words_run, CodeWord.length_ofStream]
  refine ⟨hwords, ?_, ?_, fun fault => index_lt_words, ?_, ?_, ?_⟩
  · have hcount := Fault.count_none_add_length_numbered 0
      (machine.visitAll options.layout (CodeWord.ofStream code)).2
    rwa [← faults_run, ← executed_run, length_visitAll, ← words_run machine options code] at hcount
  · rw [faults_run]
    exact Fault.pairwise_numbered _ _
  · constructor
    · rintro ⟨⟨index, cause⟩, hmem, length, rfl⟩
      exact (mem_faults_truncated_iff.mp hmem).2.1
    · intro hodd
      exact ⟨_, mem_faults_truncated_iff.mpr ⟨rfl, hodd, rfl⟩, _, rfl⟩
  · rintro ⟨index, cause⟩ hmem length rfl
    obtain ⟨hindex, hodd, hlength⟩ := mem_faults_truncated_iff.mp hmem
    have hlast : index + 1 = (machine.run options code).words := by omega
    refine ⟨getLast?_faults hmem hlast, ?_, hlength⟩
    show index = _
    omega
  · rintro ⟨index, cause⟩ hmem expected found rfl
    exact not_mem_faults_invalid hmem

/-- The instruction that is told of a piece is shown with its position and its text. -/
theorem map_shown_ofPiece? (layout : Layout) (piece : Piece) (index : Nat) :
    (Event.ofPiece? layout (piece, index)).map Event.shown
      = (piece >>= CodeWord.decode layout).toOption.map fun instruction =>
          (instruction.text, [("index", .number index)]) := by
  cases hread : piece >>= CodeWord.decode layout with
  | error error =>
    rw [Event.ofPiece?_of_error index hread]
    rfl
  | ok instruction =>
    rw [Event.ofPiece?_of_ok index hread]
    rfl

theorem tells_run (machine : Machine) (options : RunOptions) (code : List UInt8) :
    (machine.run options code).Tells options.layout code := by
  have hevents := events_run machine options code
  have hwarnings : (machine.run options code).events.toList.filter (·.level = .warn)
      = (machine.run options code).faults.toList.map .faulted := by
    rw [hevents, List.filter_append, filter_warn_tellAll, ← faults_run]
    exact List.append_nil _
  have hinstructions : (machine.run options code).events.toList.filter (·.level = .debug)
      = (CodeWord.ofStream code).zipIdx.filterMap (Event.ofPiece? options.layout) := by
    rw [hevents, List.filter_append, filter_debug_tellAll]
    exact List.append_nil _
  have hfinished : (machine.run options code).events.toList.filter (·.level = .info)
      = [.runFinished (machine.run options code).words (machine.run options code).executed
          (machine.run options code).faults.size] := by
    rw [hevents, List.filter_append, filter_info_tellAll]
    rfl
  refine ⟨hwarnings, ?_, hinstructions, ?_, ?_, hfinished, ?_, ?_⟩
  · rw [hwarnings, List.map_map]
    rfl
  · rw [hinstructions, List.map_filterMap]
    congr 1
    exact funext fun (piece, index) => map_shown_ofPiece? _ piece index
  · rw [hevents]
    exact (announced_tellAll _ _ _ _).append (Event.announced_singleton nofun)
  · rw [hfinished]
    rfl
  · rw [hevents, List.getLast?_concat]

/-- Every run accounts for each word of its stream once, in its summary and in what it tells. -/
theorem run_account (machine : Machine) (options : RunOptions) (code : List UInt8) :
    (machine.run options code).Counts code ∧
      (machine.run options code).Tells options.layout code :=
  ⟨counts_run machine options code, tells_run machine options code⟩

end Machine

end Quartet
