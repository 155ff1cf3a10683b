import Quartet.Proofs.FileTask.Assembling
import Quartet.Proofs.Machine.Window

namespace Quartet

/-!
# Interpreting files

A binary is read, a file for the result is opened, and only then is anything run.  From then on
nothing can go wrong: every stream of bytes can be run, and every window can be shown.

* `FileTask.interpret_leaves` — what is on the disk afterwards, what is returned, and what is told.
-/

namespace FileTask

/-! ### What is left behind -/

section

variable {disk opened last : Disk} {binary result : String} {window : MemoryWindow}
  {options : RunOptions} {code : ByteArray} {place : Location}

theorem interpret_of_unread {cause : DiskError} (hread : disk.read binary = .error cause) :
    interpret disk binary result window options = .failed disk (.opening binary cause) := by
  simp only [interpret, hread]

theorem interpret_of_noResult {cause : DiskError} (hread : disk.read binary = .ok code)
    (hresult : disk.create result = .error cause) :
    interpret disk binary result window options = .failed disk (.opening result cause) := by
  simp only [interpret, hread, hresult]

/-- If the result is not written, the run was made all the same. -/
theorem interpret_of_unwritten {error : FileError} (hread : disk.read binary = .ok code)
    (hresult : disk.create result = .ok (opened, place)) :
    let run := Machine.zero.run options code.data.toList
    writeDocument opened result place (Report.memory (run.machine.window window)) = .error error →
      interpret disk binary result window options
        = ⟨opened, run.events.toList, run.traceText, .error error⟩ := by
  intro run hdocument
  simp only [interpret, hread, hresult, hdocument, run]

/-- If the result is written, the outcome is that of the run. -/
theorem interpret_of_written (hread : disk.read binary = .ok code)
    (hresult : disk.create result = .ok (opened, place)) :
    let run := Machine.zero.run options code.data.toList
    opened.write place (Report.memory (run.machine.window window)).toUTF8 = .ok last →
      interpret disk binary result window options
        = ⟨last, run.events.toList, run.traceText, .ok run⟩ := by
  intro run hwrite
  have hdocument := (writeDocument_eq_ok_iff _ _ result _ _).mpr hwrite
  simp only [interpret, hread, hresult, hdocument, run]

end

/-- The binary is not read or the result is not opened, or the result is not written, or it is. -/
theorem interpret_cases (disk : Disk) (binary result : String) (window : MemoryWindow)
    (options : RunOptions) :
    let outcome := interpret disk binary result window options
    let Opens := (∃ code, disk.read binary = .ok code) ∧ disk.Creatable result
    (¬ Opens ∧ ∃ path ∈ [binary, result], ∃ cause,
        outcome = .failed disk (.opening path cause)) ∨
      Opens ∧ (outcome.WriteFails ∨
        ∃ code last, disk.read binary = .ok code ∧
          let run := Machine.zero.run options code.data.toList
          outcome = ⟨last, run.events.toList, run.traceText, .ok run⟩) := by
  intro outcome Opens
  cases hread : disk.read binary with
  | error cause =>
    refine .inl ⟨?_, binary, by simp, cause, interpret_of_unread hread⟩
    rintro ⟨⟨code, hcode⟩, -⟩
    cases hread.symm.trans hcode
  | ok code =>
  cases hcreate : disk.create result with
  | error cause =>
    refine .inl ⟨?_, result, by simp, cause, interpret_of_noResult hread hcreate⟩
    rintro ⟨-, created, hcreated⟩
    cases hcreate.symm.trans hcreated
  | ok created =>
  obtain ⟨opened, place⟩ := created
  refine .inr ⟨⟨⟨code, hread⟩, _, hcreate⟩, ?_⟩
  let run := Machine.zero.run options code.data.toList
  cases hwrite : writeDocument opened result place (Report.memory (run.machine.window window)) with
  | error failure =>
    have houtcome := interpret_of_unwritten hread hcreate hwrite
    exact .inl ⟨failure, congrArg Outcome.result houtcome,
      isWriteFailure_of_writeDocument hwrite⟩
  | ok last =>
    have hwrite' := (writeDocument_eq_ok_iff _ _ _ _ _).mp hwrite
    exact .inr ⟨code, last, rfl, interpret_of_written hread hcreate hwrite'⟩

/-- A result that is no device can be written. -/
theorem not_writeFails_interpret {disk : Disk} {binary result : String} {window : MemoryWindow}
    {options : RunOptions} (hdevice : disk.NoDevice result) :
    ¬ (interpret disk binary result window options).WriteFails := by
  rintro ⟨error, herror, hwrite⟩
  rcases interpret_cases disk binary result window options with
    ⟨-, path, -, cause, houtcome⟩ | ⟨⟨⟨code, hread⟩, ⟨opened, place⟩, hcreate⟩, -⟩
  · rw [houtcome] at herror
    cases herror
    cases hwrite
  · obtain ⟨last, hlast⟩ := Disk.exists_write_of_create hcreate hdevice
      (Report.memory ((Machine.zero.run options code.data.toList).machine.window window)).toUTF8
    rw [interpret_of_written hread hcreate hlast] at herror
    cases herror

/-- What running a file leaves behind, if the result is not a device.  A binary that is not read
    and a result that is not opened leave everything as it was, and nothing is run.  Otherwise any
    binary is run as it was before, be it the result itself or not, on a machine of zeros; the run
    is returned, and the result is the report of the cells of the window that there are, with two
    lines for each of them. -/
theorem interpret_leaves (disk : Disk) (binary result : String) (window : MemoryWindow)
    (options : RunOptions) (hdevice : disk.NoDevice result) :
    let outcome := interpret disk binary result window options
    (∀ cause, disk.read binary = .error cause →
      outcome = .failed disk (.opening binary cause)) ∧
    ∀ code, disk.read binary = .ok code →
      (∀ cause, disk.create result = .error cause →
        outcome = .failed disk (.opening result cause)) ∧
      ∀ opened place, disk.create result = .ok (opened, place) →
        let run := Machine.zero.run options code.data.toList
        outcome.result = .ok run ∧ outcome.events = run.events.toList ∧
          outcome.printed = run.traceText ∧
          (∃ cells,
            outcome.disk.read result = .ok (Report.ofLines (Report.memoryLines cells)).toUTF8 ∧
            (cells.Pairwise fun cell later => cell.1 < later.1) ∧
            ∀ index value, (index, value) ∈ cells ↔
              (window.first ≤ index ∧ index ≤ window.last) ∧
                run.machine.memory[index]? = some value) ∧
          ∀ other, other ≠ place → outcome.disk.node? other = disk.node? other := by
  intro outcome
  refine ⟨fun cause => interpret_of_unread, fun code hread => ?_⟩
  refine ⟨fun cause => interpret_of_noResult hread, ?_⟩
  intro opened place hcreate run
  have hopens := Disk.opens_of_create hcreate
  obtain ⟨last, hwrite⟩ := Disk.exists_write_of_create hcreate hdevice
    (Report.memory (run.machine.window window)).toUTF8
  have hfill := Disk.fills_of_create_write hcreate hwrite
  have hsame := hfill.sameDirectories hopens.ne_directory
  rw [show outcome = _ from interpret_of_written hread hcreate hwrite]
  refine ⟨rfl, rfl, rfl, ⟨run.machine.window window, ?_, ?_, ?_⟩, ?_⟩
  · rw [← Report.memory_eq_ofLines]
    exact Disk.read_of_received hopens hdevice hsame (Disk.Puts.node?_self hfill)
  · exact run.machine.pairwise_window window
  · exact run.machine.mem_window_iff window
  · exact fun other => Disk.Puts.node?_of_ne hfill

/-- A file that is its own result: a constant is stored in one cell, and the window shows this cell
    between two others. -/
theorem interpret_leaves_stored :
    let code : List UInt8 :=
      [0xC3, 0xDC, 0x05, 0x00, 0x00, 0x00, 0x35, 0x14, 0x10, 0x00, 0x00, 0x00]
    let disk := Disk.single "p" ⟨code.toArray⟩
    let outcome := interpret disk "p" "p" ⟨1, 3⟩ {}
    disk.NoDevice "p" ∧ outcome.result = .ok (Machine.zero.run {} code) ∧
      (Machine.zero.run {} code).executed = 2 ∧
      outcome.disk.readText "p"
        = .ok "memory:\n- ID: 1\n  VALUE: 0\n- ID: 2\n  VALUE: 187\n- ID: 3\n  VALUE: 0\n" := by
  intro code disk outcome
  have hname : Disk.isEntryName "p" = true := by decide
  have hdevice : disk.NoDevice "p" := Disk.noDevice_single _ hname
  have hread : disk.read "p" = .ok ⟨code.toArray⟩ := Disk.read_single _ hname
  have hcreate : disk.create "p" = .ok (disk.emptied ["p"], ["p"]) := rfl
  obtain ⟨-, hleaves⟩ := interpret_leaves disk "p" "p" ⟨1, 3⟩ {} hdevice
  obtain ⟨-, hopened⟩ := hleaves _ hread
  obtain ⟨hresult, -, -, ⟨cells, hcells, hascending, hmem⟩, -⟩ := hopened _ _ hcreate
  have hshown : cells = [(1, 0), (2, 187), (3, 0)] := Machine.eq_window hascending hmem
  rw [hshown] at hcells
  exact ⟨hdevice, hresult, rfl, Disk.readText_of_read hcells⟩

end FileTask

end Quartet
