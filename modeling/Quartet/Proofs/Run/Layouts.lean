import Quartet.Machine.Run
import Quartet.Proofs.CodeWord.Trimming

namespace Quartet

/-!
# Runs under the two layouts

The canonical layout reads in a trimmed word what the reference layout reads in the word as it
was.  Nothing else in a run looks at the words, so the two runs cannot be told apart.

* `Run.step_trim` — one piece of a stream.
* `Machine.run_reference` — a whole stream.
-/

namespace Run

/-- A trimmed piece is to a run under the canonical layout what the piece as it was is to a run
    under the reference layout. -/
theorem step_trim (verbose : Bool) (run : Run) (piece : Except DecodeError CodeWord) :
    step ⟨.canonical, verbose⟩ run (piece.map CodeWord.trim)
      = step ⟨.reference, verbose⟩ run piece := by
  -- a step looks at its piece only to read it
  have hread : (piece.map CodeWord.trim >>= CodeWord.decode .canonical)
      = (piece >>= CodeWord.decode .reference) := by
    cases piece with
    | error error => rfl
    | ok word => exact CodeWord.decode_trim word
  unfold step
  rw [hread]
  rfl

/-- The pieces of a stream, trimmed, are to a run what they are under the reference layout as
    they were. -/
theorem foldl_step_trim (verbose : Bool) (run : Run)
    (pieces : List (Except DecodeError CodeWord)) :
    (pieces.map (Except.map CodeWord.trim)).foldl (step ⟨.canonical, verbose⟩) run
      = pieces.foldl (step ⟨.reference, verbose⟩) run := by
  induction pieces generalizing run with
  | nil => rfl
  | cons piece rest ih => rw [List.map_cons, List.foldl_cons, List.foldl_cons, step_trim, ih]

end Run

namespace Machine

/-- A run of a stream under the reference layout is the run of the trimmed stream under the
    canonical one.  Where every operand is narrow there is nothing to trim, and the layouts
    agree. -/
theorem run_reference (machine : Machine) (verbose : Bool) (code : List UInt8) :
    machine.run ⟨.reference, verbose⟩ code
        = machine.run ⟨.canonical, verbose⟩ (CodeWord.trimStream code) ∧
      ((∀ word instruction, .ok word ∈ CodeWord.ofStream code →
          CodeWord.decode .canonical word = .ok instruction → instruction.Narrow) →
        machine.run ⟨.reference, verbose⟩ code = machine.run ⟨.canonical, verbose⟩ code) := by
  have htrim : machine.run ⟨.reference, verbose⟩ code
      = machine.run ⟨.canonical, verbose⟩ (CodeWord.trimStream code) := by
    unfold run
    rw [CodeWord.ofStream_trimStream, Run.foldl_step_trim]
  refine ⟨htrim, fun hnarrow => ?_⟩
  have hself : CodeWord.trimStream code = code :=
    CodeWord.trimStream_eq_self fun word hmem =>
      CodeWord.trim_eq_self fun instruction => hnarrow word instruction hmem
  rw [htrim, hself]

/-- The layouts agree on a stream that loads 187 and ends within a word. -/
theorem run_reference_load :
    Machine.zero.run ⟨.reference, true⟩ [0xC3, 0xDC, 0x05, 0x00, 0x00, 0x00, 0xC3]
      = Machine.zero.run ⟨.canonical, true⟩ [0xC3, 0xDC, 0x05, 0x00, 0x00, 0x00, 0xC3] := by
  refine (run_reference Machine.zero true _).2 fun word instruction hmem hread => ?_
  have hword : word = CodeWord.ofBytes [0xC3, 0xDC, 0x05, 0x00, 0x00, 0x00] := by
    simpa [CodeWord.ofStream] using hmem
  have hload : CodeWord.decode .canonical (CodeWord.ofBytes [0xC3, 0xDC, 0x05, 0x00, 0x00, 0x00])
      = .ok (.loadConstant 4 187) := by decide
  rw [hword, hload] at hread
  cases hread
  show (187 : Word).toNat < 2 ^ 24
  decide

end Machine

end Quartet
