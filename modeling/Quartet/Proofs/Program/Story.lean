import Quartet.Program
import Quartet.Proofs.Assembly.Strays
import Quartet.Proofs.FileTask.Interpreting
import Quartet.Proofs.Run.Account

namespace Quartet

open Text

/-!
# What the program tells

Where no filter is set, the exit status and the two output streams tell how a task went: which
words or tokens were passed over, how many, and what stopped it.

* `Program.RunEnds`, `Program.AssemblyEnds` — how the two commands end.
* `Program.AssemblyTells` — what is told of a source that has been assembled.
* `Program.run_ends` — every command that gets its files written ends in this way.
-/

/-! ### Events shown as lines -/

/-- Of a run, the faults are shown. -/
theorem Machine.text_events_run (machine : Machine) (options : RunOptions) (code : List UInt8) :
    let run := machine.run options code
    Log.text .standard run.events.toList
      = String.join (run.faults.toList.map Log.faultLine) := by
  intro run
  have hwarnings : run.events.toList.filter (·.level = .warn) = run.faults.toList.map .faulted :=
    (tells_run machine options code).warnings
  rw [Log.text_standard fun event => level_ne_error_of_mem_events, hwarnings, List.map_map]
  exact congrArg _ (List.map_congr_left fun fault _ => Log.line_faulted fault)

/-- Of an assembly, the tokens that stand alone are shown, as far as it gets. -/
theorem Assembly.text_events {tokens read rest : List Token} (hsplit : tokens = read ++ rest)
    (haccepts : Accepts read (ofTokens tokens).entries)
    (hstops : Stops rest (ofTokens tokens).error) :
    Log.text .standard (ofTokens tokens).events
      = String.join ((Statement.strays read).map Log.strayLine) := by
  have hlevel : ∀ event ∈ (ofTokens tokens).events, event.level ≠ .error := by
    intro event hmem
    rcases level_of_mem_events hmem with h | h <;>
    · rw [h]
      decide
  have hwarnings := haccepts.warnings_of_stops hstops
  rw [← hsplit] at hwarnings
  rw [Log.text_standard hlevel, hwarnings, List.map_map]
  exact congrArg _ (List.map_congr_left fun token _ => Log.line_strayToken token)

namespace Program

/-! ### Reports -/

/-- The part of a report that says what lies behind an error. -/
def causedBy (cause : String) : String := s!"\nCaused by:\n    {cause}\n"

/-- The report of a file that cannot be opened. -/
def openingReport (path : String) (cause : DiskError) : String :=
  s!"Error: error opening {path}: {cause.message}\n" ++ causedBy cause.message

/-- The report of an assembly that stopped.  Behind a malformed statement lies nothing. -/
def errorReport : AssemblyError → String
  | .malformed error => s!"Error: {error.message}\n"
  | .unencodable line error =>
    s!"Error: encoding error on line {line}: {error.message}\n" ++ causedBy error.message

/-- What is told behind the warnings of an assembly. -/
def stopReport (input : String) (assembly : Assembly) : String :=
  match assembly.error with
  | none => ""
  | some error => Log.stoppedLine input error assembly.entries.length ++ errorReport error

/-- What is told behind the warnings of a run. -/
def skipReport (faults : Nat) : String := if faults = 0 then "" else Log.skippedLine faults

theorem failureReport_opening (path : String) (cause : DiskError) :
    failureReport (.opening path cause) = openingReport path cause := by
  have hstart : "Error: " ++ "error opening " = "Error: error opening " := by decide
  have hmessage : "Error: " ++ FileError.message (.opening path cause)
      = "Error: error opening " ++ path ++ ": " ++ cause.message := by
    show "Error: " ++ ("error opening " ++ path ++ ": " ++ cause.message) = _
    simp only [← hstart, String.append_assoc]
  exact congrArg (· ++ "\n" ++ causedBy cause.message) hmessage

theorem failureReport_assembling (error : AssemblyError) :
    failureReport (.assembling error) = errorReport error := by
  cases error with
  | malformed error => exact String.append_empty
  | unencodable line error =>
    have hstart : "Error: " ++ "encoding error on line " = "Error: encoding error on line " := by
      decide
    have hmessage : "Error: " ++ AssemblyError.message (.unencodable line error)
        = "Error: encoding error on line " ++ toString line ++ ": " ++ error.message := by
      show "Error: " ++ ("encoding error on line " ++ toString line ++ ": " ++ error.message) = _
      simp only [← hstart, String.append_assoc]
    exact congrArg (· ++ "\n" ++ causedBy error.message) hmessage

/-! ### Conclusions -/

section

variable {α : Type} (filter : Log.Filter) {outcome : FileTask.Outcome α} (told : α → List Event)
  (done : α → String)

theorem conclude_of_ok {value : α} (h : outcome.result = .ok value) :
    conclude filter outcome told done
      = ⟨0, outcome.printed ++ done value,
          Log.text filter outcome.events ++ Log.text filter (told value), outcome.disk⟩ := by
  rw [conclude, h]

theorem conclude_of_error {error : FileError} (h : outcome.result = .error error) :
    conclude filter outcome told done
      = ⟨1, outcome.printed, Log.text filter outcome.events ++ failureReport error,
          outcome.disk⟩ := by
  rw [conclude, h]

/-- A task that fails before it does anything leaves its report and nothing else. -/
theorem conclude_failed (disk : Disk) (error : FileError) :
    conclude filter (.failed disk error) told done = ⟨1, "", failureReport error, disk⟩ := by
  rw [conclude_of_error filter told done rfl]
  exact congrArg (Outcome.mk 1 "" · disk) String.empty_append

end

/-! ### Running a binary -/

/-- How running a binary ends, whatever its words are. -/
structure RunEnds (disk : Disk) (binary result : String) (window : MemoryWindow)
    (options : RunOptions) (outcome : Outcome) : Prop where
  /-- It succeeds exactly if the binary can be read and the result can be created. -/
  status_eq_zero_iff : outcome.status = 0 ↔
    (∃ code, disk.read binary = .ok code) ∧ disk.Creatable result
  /-- Otherwise a file is named that could not be opened, and nothing else is told. -/
  failed : outcome.status ≠ 0 → outcome.status = 1 ∧ outcome.stdout = "" ∧
    ∃ path ∈ [binary, result], ∃ cause, outcome.stderr = openingReport path cause
  /-- Each fault is told, in the order of the words, and then how many there are, if any. -/
  succeeded : outcome.status = 0 → ∀ code, disk.read binary = .ok code →
    let run := Machine.zero.run options code.data.toList
    outcome.stdout = run.traceText ++ executedLine result window run ∧
      outcome.stderr = String.join (run.faults.toList.map Log.faultLine) ++
        skipReport run.faults.size ∧
      run.faults.toList.Pairwise (·.index < ·.index) ∧
      (∀ fault ∈ run.faults, IsLine (Log.faultLine fault)) ∧
      IsLine (Log.skippedLine run.faults.size)

theorem text_skippedEvents (run : Run) :
    Log.text .standard (skippedEvents run) = skipReport run.faults.size := by
  unfold skippedEvents skipReport
  cases hfaults : run.faults.isEmpty with
  | true =>
    rw [if_pos rfl, if_pos (Array.isEmpty_iff_size_eq_zero.mp hfaults)]
    rfl
  | false =>
    have hsome : run.faults.size ≠ 0 := fun h => by
      rw [Array.isEmpty_iff_size_eq_zero.mpr h] at hfaults
      cases hfaults
    have hshown := (Log.Filter.shows_standard_iff (.wordsSkipped run.faults.size)).mpr (.inl rfl)
    rw [if_neg Bool.false_ne_true, if_neg hsome, Log.text_singleton, if_pos hshown,
      Log.line_wordsSkipped]

theorem runEnds_interpret {disk : Disk} {binary result : String} {window : MemoryWindow}
    {options : RunOptions}
    (hwrites : ¬ (FileTask.interpret disk binary result window options).WriteFails) :
    RunEnds disk binary result window options
      (perform .standard disk (.interpret binary result window options)) := by
  -- the files are not opened, or one is not written, or the run is told
  rcases FileTask.interpret_cases disk binary result window options with
    ⟨hclosed, path, hpath, cause, houtcome⟩ | ⟨hopens, hfails | ⟨code, last, hread, houtcome⟩⟩
  · rw [perform, houtcome, conclude_failed, failureReport_opening]
    exact ⟨iff_of_false nofun hclosed, fun _ => ⟨rfl, rfl, path, hpath, cause, rfl⟩, nofun⟩
  · exact absurd hfails hwrites
  · rw [perform, houtcome, conclude_of_ok _ _ _ rfl, text_skippedEvents,
      Machine.text_events_run]
    refine ⟨iff_of_true rfl hopens, fun h => absurd rfl h, fun _ code' hread' => ?_⟩
    cases hread.symm.trans hread'
    exact ⟨rfl, rfl, (Machine.counts_run _ _ _).increasing,
      fun fault _ => Log.isLine_faultLine fault, Log.isLine_skippedLine _⟩

/-! ### Assembling a source -/

/-- What is told of a source that has been assembled: `read` is what assembly has gone through, and
    `rest` begins where it stops.  A warning is always one line.  The path of the source is told as
    it is, so a line break in it breaks the line of the error in two. -/
structure AssemblyTells (input text stderr : String) (read rest : List Token) : Prop where
  split : Token.ofText text = read ++ rest
  accepts : Assembly.Accepts read (Assembly.ofText text).entries
  stops : Assembly.Stops rest (Assembly.ofText text).error
  /-- Each token that stands alone is told, and then what stopped assembly, if it was stopped. -/
  stderr_eq : stderr = String.join ((Statement.strays read).map Log.strayLine) ++
    stopReport input (Assembly.ofText text)
  /-- The warnings are in the order of the source. -/
  strays_sublist : (Statement.strays read).Sublist read
  strays_ne_mnemonic : ∀ token ∈ Statement.strays read, ∀ opcode : Opcode,
    token.text ≠ opcode.mnemonic
  isLine_stray : ∀ token ∈ Statement.strays read, IsLine (Log.strayLine token)
  /-- Besides the break at its end, the line of the error has the breaks of the path. -/
  count_stopped : ∀ error, (Assembly.ofText text).error = some error →
    (Log.stoppedLine input error (Assembly.ofText text).entries.length).toList.count '\n'
      = input.toList.count '\n' + 1
  /-- So it is one line if the path has none. -/
  isLine_stopped : ∀ error, (Assembly.ofText text).error = some error → IsUnbroken input →
    IsLine (Log.stoppedLine input error (Assembly.ofText text).entries.length)

/-- How assembling a source ends. -/
structure AssemblyEnds (disk : Disk) (input output log : String) (outcome : Outcome) : Prop where
  /-- It succeeds exactly if the files can be opened and assembly reaches the end. -/
  status_eq_zero_iff : outcome.status = 0 ↔ FileTask.Opens disk input output log ∧
    ∃ text, disk.readText input = .ok text ∧ (Assembly.ofText text).isComplete = true
  /-- Otherwise nothing is written to standard output. -/
  failed : outcome.status ≠ 0 → outcome.status = 1 ∧ outcome.stdout = ""
  succeeded : outcome.status = 0 → ∀ text, disk.readText input = .ok text →
    let assembly := Assembly.ofText text
    outcome.stdout = assembledLine output ⟨assembly.entries.length, assembly.code.length⟩
  /-- If the files cannot be opened, one of them is named, and nothing else is told. -/
  closed : ¬ FileTask.Opens disk input output log →
    ∃ path ∈ [input, output, log], ∃ cause, outcome.stderr = openingReport path cause
  /-- If they can, what is told is the tokens that stand alone, as far as assembly gets, and then
      the error that stopped it, if there is one. -/
  opened : FileTask.Opens disk input output log → ∀ text, disk.readText input = .ok text →
    ∃ read rest, AssemblyTells input text outcome.stderr read rest

/-- What is told last is shown if it is an error. -/
theorem text_closing (input : String) (assembly : Assembly) :
    Log.text .standard [FileTask.closing input assembly] = match assembly.error with
      | none => ""
      | some error => Log.stoppedLine input error assembly.entries.length := by
  rw [Log.text_singleton, FileTask.closing]
  cases assembly.error with
  | none =>
    refine if_neg fun h => ?_
    rcases (Log.Filter.shows_standard_iff _).mp h with h | h <;> cases h
  | some error =>
    have hshown := (Log.Filter.shows_standard_iff
      (.fileStopped input error assembly.entries.length)).mpr (.inr rfl)
    exact (if_pos hshown).trans (Log.line_fileStopped _ _ _)

/-- What is left when both files are written. -/
theorem conclude_written (input output : String) (assembly : Assembly) (last : Disk) :
    let sizes : FileTask.Sizes := ⟨assembly.entries.length, assembly.code.length⟩
    conclude .standard ⟨last, assembly.events ++ [FileTask.closing input assembly], "",
        FileTask.verdict assembly⟩ (fun _ => []) (assembledLine output)
      = ⟨if assembly.isComplete then 0 else 1,
          if assembly.isComplete then assembledLine output sizes else "",
          Log.text .standard assembly.events ++ stopReport input assembly, last⟩ := by
  intro sizes
  cases herror : assembly.error with
  | none =>
    have hcomplete : assembly.isComplete = true := by
      rw [Assembly.isComplete, herror, Option.isNone_none]
    have hverdict : FileTask.verdict assembly = .ok sizes := by rw [FileTask.verdict, herror]
    have hnothing : Log.text .standard [] = "" := rfl
    rw [conclude_of_ok _ _ _ hverdict, Log.text_append, text_closing, stopReport, herror, hcomplete,
      hnothing, String.append_empty, String.empty_append]
    rfl
  | some error =>
    have hstopped : assembly.isComplete = false := by
      rw [Assembly.isComplete, herror, Option.isNone_some]
    have hverdict : FileTask.verdict assembly = .error (.assembling error) := by
      rw [FileTask.verdict, herror]
    -- the line of the error and its report both follow the warnings
    rw [conclude_of_error _ _ _ hverdict, Log.text_append, text_closing, stopReport, herror,
      hstopped, failureReport_assembling, String.append_assoc]
    rfl

/-- What the events of an assembly and its report come to. -/
theorem assemblyTells (input text : String) : ∃ read rest,
    AssemblyTells input text
      (Log.text .standard (Assembly.ofText text).events ++ stopReport input (Assembly.ofText text))
      read rest := by
  obtain ⟨read, rest, hsplit, haccepts, hstops⟩ := Assembly.ofTokens_accepts (Token.ofText text)
  have htext : Log.text .standard (Assembly.ofText text).events
      = String.join ((Statement.strays read).map Log.strayLine) :=
    Assembly.text_events hsplit haccepts hstops
  refine ⟨read, rest, hsplit, haccepts, hstops, congrArg (· ++ _) htext,
    Statement.strays_sublist read, fun _ hmem => Statement.ne_mnemonic_of_mem_strays hmem,
    fun token _ => Log.isLine_strayLine token, fun error herror => ?_,
    fun error herror hinput => ?_⟩
  · exact Log.count_stoppedLine input _ (Assembly.isUnbroken_message herror)
  · exact Log.isLine_stoppedLine _ hinput (Assembly.isUnbroken_message herror)

theorem assemblyEnds_assemble {disk : Disk} {input output log : String}
    (hwrites : ¬ (FileTask.assemble disk input output log).WriteFails) :
    AssemblyEnds disk input output log (perform .standard disk (.assemble input output log)) := by
  rcases FileTask.assemble_cases disk input output log with
    ⟨hclosed, after, path, hpath, cause, houtcome⟩ | ⟨hopens, hfails |
      ⟨text, emptied, binaryPlace, opened, logPlace, written, last, hread, hbinary, hlog, hcode,
        hdocument⟩⟩
  · rw [perform, houtcome, conclude_failed, failureReport_opening]
    exact ⟨iff_of_false nofun fun h => hclosed h.1, fun _ => ⟨rfl, rfl⟩, nofun,
      fun _ => ⟨path, hpath, cause, rfl⟩, fun h => absurd h hclosed⟩
  · exact absurd hfails hwrites
  · rw [perform, FileTask.assemble_of_written hread hbinary hlog hcode hdocument, conclude_written]
    -- all files were written, so the status is that of the assembly
    have hstatus : (if (Assembly.ofText text).isComplete then 0 else 1) = 0 ↔
        (Assembly.ofText text).isComplete = true := by
      cases (Assembly.ofText text).isComplete <;> decide
    refine ⟨?_, ?_, ?_, fun h => absurd hopens h, ?_⟩
    · rw [and_iff_right hopens, hstatus]
      constructor
      · exact fun hcomplete => ⟨text, hread, hcomplete⟩
      · rintro ⟨text', hread', hcomplete⟩
        cases hread.symm.trans hread'
        exact hcomplete
    · intro h
      have hstopped := mt hstatus.mpr h
      exact ⟨if_neg hstopped, if_neg hstopped⟩
    · intro h text' hread'
      cases hread.symm.trans hread'
      exact if_pos (hstatus.mp h)
    · intro _ text' hread'
      cases hread.symm.trans hread'
      exact assemblyTells input text

/-! ### Both commands -/

/-- Whether a command fails because a file that was opened cannot be written. -/
def WriteFails (disk : Disk) : Command → Prop
  | .assemble input output log => (FileTask.assemble disk input output log).WriteFails
  | .interpret binary result window options =>
    (FileTask.interpret disk binary result window options).WriteFails

/-- How a command ends. -/
def Ends (disk : Disk) (outcome : Outcome) : Command → Prop
  | .assemble input output log => AssemblyEnds disk input output log outcome
  | .interpret binary result window options => RunEnds disk binary result window options outcome

/-- Where no filter is set, the exit status and the streams tell how a command went, unless a file
    cannot be written. -/
theorem run_ends (disk : Disk) {arguments : List String} {command : Command}
    (hcommand : Request.ofArguments arguments = .run command)
    (hwrites : ¬ WriteFails disk command) : Ends disk (run none arguments disk) command := by
  have hrun : run none arguments disk = perform .standard disk command := by
    rw [run, hcommand]
    rfl
  rw [hrun]
  cases command with
  | assemble input output log => exact assemblyEnds_assemble hwrites
  | interpret binary result window options => exact runEnds_interpret hwrites

/-- A source of a token that stands alone and a command that breaks off, and a binary of one
    byte, which is its own result. -/
theorem run_ends_single :
    let source := Disk.single "p" "x OR R1".toUTF8
    let assembled := run none ["assemble", "p", "b", "l"] source
    let fragment := Disk.single "p" ⟨#[0xC3]⟩
    let executed := run none ["interpret", "p", "p", "5", "2"] fragment
    (¬ WriteFails source (.assemble "p" "b" "l") ∧ assembled.status = 1 ∧ assembled.stdout = "" ∧
      assembled.stderr =
        " WARN skipping token that is not a mnemonic line=1 token=\"x\"\n" ++
        "ERROR syntax error on line 1: BITWISE_OR failed, unexpected end of input; " ++
          "input: 'OR', tokens: 'R1' input=p assembled=0\n" ++
        "Error: syntax error on line 1: BITWISE_OR failed, unexpected end of input; " ++
          "input: 'OR', tokens: 'R1'\n") ∧
      ¬ WriteFails fragment (.interpret "p" "p" ⟨5, 2⟩ {}) ∧ executed.status = 0 ∧
        executed.stderr = " WARN truncated code word: 1 trailing bytes index=0\n" ++
          " WARN some code words were skipped faults=1\n" := by
  intro source assembled fragment executed
  have hname : Disk.isEntryName "p" = true := by decide
  have hname' : Disk.isEntryName "b" = true := by decide
  have hname'' : Disk.isEntryName "l" = true := by decide
  constructor
  · have hread : source.readText "p" = .ok "x OR R1" :=
      Disk.readText_of_read (Disk.read_single _ hname)
    have hcommand : Request.ofArguments ["assemble", "p", "b", "l"]
        = .run (.assemble "p" "b" "l") := by decide
    have hwrites : ¬ WriteFails source (.assemble "p" "b" "l") :=
      FileTask.not_writeFails_assemble (Disk.noDevice_single _ hname')
        (Disk.noDevice_single _ hname'')
    have hends : AssemblyEnds source "p" "b" "l" assembled := run_ends source hcommand hwrites
    obtain ⟨read, rest, htells⟩ := hends.opened ⟨⟨_, hread⟩, ⟨_, rfl⟩, ⟨_, rfl⟩⟩ _ hread
    have hstderr := htells.stderr_eq
    have htext : Log.text .standard (Assembly.ofText "x OR R1").events
        = String.join ((Statement.strays read).map Log.strayLine) :=
      Assembly.text_events htells.split htells.accepts htells.stops
    have hfailed : assembled.status ≠ 0 := by
      intro hstatus
      obtain ⟨-, text, hread', hcomplete⟩ := hends.status_eq_zero_iff.mp hstatus
      cases hread.symm.trans hread'
      rw [Assembly.ofText_short] at hcomplete
      cases hcomplete
    rw [← htext, Assembly.ofText_short] at hstderr
    refine ⟨hwrites, (hends.failed hfailed).1, (hends.failed hfailed).2, hstderr.trans ?_⟩
    decide +kernel
  · have hread : fragment.read "p" = .ok ⟨#[0xC3]⟩ := Disk.read_single _ hname
    have hcommand : Request.ofArguments ["interpret", "p", "p", "5", "2"]
        = .run (.interpret "p" "p" ⟨5, 2⟩ {}) := by decide
    have hwrites : ¬ WriteFails fragment (.interpret "p" "p" ⟨5, 2⟩ {}) :=
      FileTask.not_writeFails_interpret (Disk.noDevice_single _ hname)
    have hends : RunEnds fragment "p" "p" ⟨5, 2⟩ {} executed := run_ends fragment hcommand hwrites
    have hstatus := hends.status_eq_zero_iff.mpr ⟨⟨_, hread⟩, _, rfl⟩
    refine ⟨hwrites, hstatus, ?_⟩
    rw [(hends.succeeded hstatus _ hread).2.1]
    rfl

end Program

end Quartet
