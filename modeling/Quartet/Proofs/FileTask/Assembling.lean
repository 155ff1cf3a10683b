import Quartet.FileTask
import Quartet.Proofs.Disk.Files
import Quartet.Proofs.Report.Records

namespace Quartet

/-!
# Assembling files

Assembling a file is a chain of steps on the disk: a source is read, two files are opened, one
after the other, and then both are written.  How far the chain gets decides what is left behind.

* `FileTask.assemble_cases` — how far the chain gets.
* `FileTask.assemble_of_written`, `FileTask.exists_written` — the chain that gets to its end.
* `FileTask.verdict`, `FileTask.closing` — what is returned and told at its end.
* `FileTask.assemble_leaves` — what is on the disk afterwards, what is returned, and what is told.
-/

/-! ### Events -/

/-- An assembly tells of its entries and of tokens that are passed over, and of nothing else. -/
theorem Assembly.level_of_mem_events {tokens : List Token} {event : Event}
    (h : event ∈ (ofTokens tokens).events) : event.level = .warn ∨ event.level = .debug := by
  induction tokens using commandwise with
  | finished =>
    rw [ofTokens_nil] at h
    cases h
  | stray token rest hstray ih =>
    rw [ofTokens_stray rest hstray] at h
    rcases List.mem_cons.mp h with rfl | hrest
    · exact .inl rfl
    · exact ih hrest
  | stop token rest opcode error hopcode hentry =>
    rw [ofTokens_stop rest hopcode hentry] at h
    cases h
  | command token rest opcode entry hopcode hentry ih =>
    rw [ofTokens_command rest hopcode hentry] at h
    rcases List.mem_cons.mp h with rfl | hrest
    · exact .inr rfl
    · exact ih hrest

/-- A text of one command. -/
theorem Assembly.ofText_load : ofText "LOAD_CONSTANT R4, #187" =
    let entry : Entry := ⟨.loadConstant 4 187, 0x5DCC3, 1⟩
    ⟨[entry], none, [.assembled entry]⟩ := by
  have htokens : Token.ofText "LOAD_CONSTANT R4, #187"
      = [⟨"LOAD_CONSTANT", 1⟩, ⟨"R4,", 1⟩, ⟨"#187", 1⟩] := by decide
  have hentry : Statement.entry .loadConstant ⟨"LOAD_CONSTANT", 1⟩ [⟨"R4,", 1⟩, ⟨"#187", 1⟩]
      = .ok ⟨.loadConstant 4 187, 0x5DCC3, 1⟩ := by rfl
  have hend : ofTokens ([⟨"R4,", 1⟩, ⟨"#187", 1⟩].drop 2) = ⟨[], none, []⟩ := ofTokens_nil
  rw [ofText, htokens, ofTokens_command _ (Opcode.ofMnemonic?_mnemonic .loadConstant) hentry,
    Opcode.tokenCount, hend]

/-- Whether an error is that of a file that was opened and cannot be written. -/
def FileError.isWriteFailure : FileError → Bool
  | writing .. | reporting _ => true
  | opening .. | assembling _ => false

namespace FileTask

/-! ### The end of the chain -/

/-- What is returned when both files are written. -/
def verdict (assembly : Assembly) : Except FileError Sizes :=
  match assembly.error with
  | some error => .error (.assembling error)
  | none => .ok ⟨assembly.entries.length, assembly.code.length⟩

/-- What is told last when both files are written. -/
def closing (input : String) (assembly : Assembly) : Event :=
  match assembly.error with
  | some error => .fileStopped input error assembly.entries.length
  | none => .fileAssembled input assembly.entries.length assembly.code.length

theorem writeDocument_eq_ok_iff (disk after : Disk) (path : String) (place : Location)
    (document : String) :
    writeDocument disk path place document = .ok after ↔
      disk.write place document.toUTF8 = .ok after := by
  unfold writeDocument
  cases disk.write place document.toUTF8 with
  | ok written => simp
  | error cause =>
    dsimp only
    split <;> simp

/-- Whether a task fails because a file that was opened cannot be written. -/
def Outcome.WriteFails {α : Type} (outcome : Outcome α) : Prop :=
  ∃ error : FileError, outcome.result = .error error ∧ error.isWriteFailure = true

theorem isWriteFailure_of_writeDocument {disk : Disk} {path : String} {place : Location}
    {document : String} {error : FileError}
    (h : writeDocument disk path place document = .error error) : error.isWriteFailure = true := by
  unfold writeDocument at h
  split at h
  · cases h
  · split at h <;> cases h <;> rfl

section

variable {disk emptied opened written last : Disk} {input binary log text : String}
  {binaryPlace logPlace : Location} {cause : DiskError}

/-! One equation for each place at which the chain can break. -/

theorem assemble_of_unread (hread : disk.readText input = .error cause) :
    assemble disk input binary log = .failed disk (.opening input cause) := by
  simp only [assemble, hread]

variable (hread : disk.readText input = .ok text)

include hread

theorem assemble_of_noBinary (hbinary : disk.create binary = .error cause) :
    assemble disk input binary log = .failed disk (.opening binary cause) := by
  simp only [assemble, hread, hbinary]

variable (hbinary : disk.create binary = .ok (emptied, binaryPlace))

include hbinary

theorem assemble_of_noLog (hlog : emptied.create log = .error cause) :
    assemble disk input binary log = .failed emptied (.opening log cause) := by
  simp only [assemble, hread, hbinary, hlog]

variable (hlog : emptied.create log = .ok (opened, logPlace))

include hlog

theorem assemble_of_unwritten
    (hcode : opened.write binaryPlace ⟨(Assembly.ofText text).code.toArray⟩ = .error cause) :
    assemble disk input binary log
      = ⟨opened, (Assembly.ofText text).events, "", .error (.writing binary cause)⟩ := by
  simp only [assemble, hread, hbinary, hlog, hcode]

variable (hcode : opened.write binaryPlace ⟨(Assembly.ofText text).code.toArray⟩ = .ok written)

include hcode

theorem assemble_of_unlogged {error : FileError}
    (hdocument : writeDocument written log logPlace (Report.log (Assembly.ofText text).instructions)
      = .error error) :
    assemble disk input binary log
      = ⟨written, (Assembly.ofText text).events, "", .error error⟩ := by
  simp only [assemble, hread, hbinary, hlog, hcode, hdocument]

variable (hdocument : written.write logPlace
  (Report.log (Assembly.ofText text).instructions).toUTF8 = .ok last)

include hdocument

/-- If both files are written, the outcome is that of the assembly. -/
theorem assemble_of_written :
    assemble disk input binary log
      = ⟨last, (Assembly.ofText text).events ++ [closing input (Assembly.ofText text)], "",
          verdict (Assembly.ofText text)⟩ := by
  have hdocument' := (writeDocument_eq_ok_iff _ _ log _ _).mpr hdocument
  simp only [assemble, hread, hbinary, hlog, hcode, hdocument', closing, verdict]
  cases (Assembly.ofText text).error <;> rfl

omit hread in
/-- Both files hold what they are written last, be they one and the same. -/
theorem fillsBoth_of_written :
    disk.FillsBoth binaryPlace ⟨(Assembly.ofText text).code.toArray⟩ logPlace
      (Report.log (Assembly.ofText text).instructions).toUTF8 last := by
  -- if the files are the same, the log covers all of the code
  have hle : (Assembly.ofText text).code.toArray.size
      ≤ (Report.log (Assembly.ofText text).instructions).utf8ByteSize := by
    rw [List.size_toArray]
    exact Assembly.length_code_le_log _
  exact Disk.fillsBoth_of_write hbinary hlog hle hcode hdocument

end

/-- Whether the files of an assembly can be opened. -/
structure Opens (disk : Disk) (input binary log : String) : Prop where
  input : ∃ text, disk.readText input = .ok text
  binary : disk.Creatable binary
  log : disk.Creatable log

/-- The chain breaks where a file is opened, or where one is written, or it gets to its end. -/
theorem assemble_cases (disk : Disk) (input binary log : String) :
    let outcome := assemble disk input binary log
    (¬ Opens disk input binary log ∧ ∃ after, ∃ path ∈ [input, binary, log], ∃ cause,
        outcome = .failed after (.opening path cause)) ∨
      Opens disk input binary log ∧ (outcome.WriteFails ∨
        ∃ text emptied binaryPlace opened logPlace written last,
          disk.readText input = .ok text ∧
          disk.create binary = .ok (emptied, binaryPlace) ∧
          emptied.create log = .ok (opened, logPlace) ∧
          opened.write binaryPlace ⟨(Assembly.ofText text).code.toArray⟩ = .ok written ∧
          written.write logPlace (Report.log (Assembly.ofText text).instructions).toUTF8
            = .ok last) := by
  intro outcome
  cases hread : disk.readText input with
  | error cause =>
    refine .inl ⟨fun hopens => ?_, disk, input, by simp, cause, assemble_of_unread hread⟩
    obtain ⟨text, htext⟩ := hopens.input
    cases hread.symm.trans htext
  | ok text =>
  cases hbinary : disk.create binary with
  | error cause =>
    refine .inl ⟨fun hopens => ?_, disk, binary, by simp, cause, assemble_of_noBinary hread hbinary⟩
    obtain ⟨created, hcreated⟩ := hopens.binary
    cases hbinary.symm.trans hcreated
  | ok created =>
  obtain ⟨emptied, binaryPlace⟩ := created
  cases hlog : emptied.create log with
  | error cause =>
    refine .inl
      ⟨fun hopens => ?_, emptied, log, by simp, cause, assemble_of_noLog hread hbinary hlog⟩
    obtain ⟨created, hcreated⟩ := (Disk.creatable_iff_of_create hbinary).mpr hopens.log
    cases hlog.symm.trans hcreated
  | ok created =>
  obtain ⟨opened, logPlace⟩ := created
  have hcreatable := (Disk.creatable_iff_of_create hbinary).mp ⟨_, hlog⟩
  refine .inr ⟨⟨⟨text, hread⟩, ⟨_, hbinary⟩, hcreatable⟩, ?_⟩
  cases hcode : opened.write binaryPlace ⟨(Assembly.ofText text).code.toArray⟩ with
  | error cause =>
    have houtcome := assemble_of_unwritten hread hbinary hlog hcode
    exact .inl ⟨_, congrArg Outcome.result houtcome, rfl⟩
  | ok written =>
  cases hdocument : writeDocument written log logPlace
      (Report.log (Assembly.ofText text).instructions) with
  | error failure =>
    have houtcome := assemble_of_unlogged hread hbinary hlog hcode hdocument
    exact .inl ⟨failure, congrArg Outcome.result houtcome,
      isWriteFailure_of_writeDocument hdocument⟩
  | ok last =>
  have hdocument' := (writeDocument_eq_ok_iff _ _ _ _ _).mp hdocument
  exact .inr ⟨text, emptied, binaryPlace, opened, logPlace, written, last, rfl, rfl, hlog, hcode,
    hdocument'⟩

/-- A result that is not due to the disk shows that both files were written. -/
theorem exists_written {disk : Disk} {input binary log text : String}
    (hread : disk.readText input = .ok text)
    (hresult : (∃ sizes, (assemble disk input binary log).result = .ok sizes) ∨
      ∃ error, (assemble disk input binary log).result = .error (.assembling error)) :
    let assembly := Assembly.ofText text
    ∃ emptied binaryPlace opened logPlace written last,
      disk.create binary = .ok (emptied, binaryPlace) ∧
        emptied.create log = .ok (opened, logPlace) ∧
        opened.write binaryPlace ⟨assembly.code.toArray⟩ = .ok written ∧
        written.write logPlace (Report.log assembly.instructions).toUTF8 = .ok last := by
  intro assembly
  rcases assemble_cases disk input binary log with
    ⟨-, after, path, -, cause, houtcome⟩ | ⟨-, ⟨failure, hfailure, hwrite⟩ |
      ⟨text', emptied, binaryPlace, opened, logPlace, written, last, hread', hchain⟩⟩
  · rw [houtcome] at hresult
    rcases hresult with ⟨sizes, h⟩ | ⟨error, h⟩ <;> cases h
  · rw [hfailure] at hresult
    rcases hresult with ⟨sizes, h⟩ | ⟨error, h⟩ <;> cases h
    cases hwrite
  · cases hread.symm.trans hread'
    exact ⟨emptied, binaryPlace, opened, logPlace, written, last, hchain⟩

/-! ### The log and the code -/

/-- The log of a text, wherever assembly stopped, describes the code word by word: there are as
    many records as words, and each of them says what its word says.  Assembling a file gives the
    files this log and this code, if it gets that far, and returns their lengths. -/
theorem log_describes_code (text : String) :
    let assembly := Assembly.ofText text
    let records := assembly.instructions.map Report.Record.ofInstruction
    Report.log assembly.instructions = Report.document records ∧
      assembly.code.length = 6 * records.length ∧
      (∀ (index : Nat) (record : Report.Record), records[index]? = some record →
        record.Describes (CodeWord.bytesAt assembly.code index)) ∧
      ∀ disk input binary log, disk.readText input = .ok text →
        let outcome := assemble disk input binary log
        ((∃ sizes, outcome.result = .ok sizes) ∨
          ∃ error, outcome.result = .error (.assembling error)) →
        (∀ place, disk.locate log = .ok place → outcome.disk.node? place
          = some (.received (disk.node? place) (Report.document records).toUTF8)) ∧
        (∀ place, disk.locate binary = .ok place → disk.locate log ≠ .ok place →
          outcome.disk.node? place
            = some (.received (disk.node? place) ⟨assembly.code.toArray⟩)) ∧
        ∀ sizes, outcome.result = .ok sizes →
          sizes = ⟨records.length, assembly.code.length⟩ := by
  intro assembly records
  have hlog : Report.log assembly.instructions = Report.document records :=
    Report.log_eq_document _
  have hlength : records.length = assembly.entries.length := by
    rw [List.length_map, Assembly.instructions, List.length_map]
  refine ⟨hlog, ?_, fun index record => Assembly.describes_of_getElem?, ?_⟩
  · rw [hlength]
    exact Assembly.length_code assembly
  intro disk input binary log hread outcome hresult
  obtain ⟨emptied, binaryPlace, opened, logPlace, written, last, hbinary, hopened, hcode,
    hdocument⟩ := exists_written hread hresult
  have houtcome : outcome = ⟨last, _, _, verdict assembly⟩ :=
    assemble_of_written hread hbinary hopened hcode hdocument
  have hfill := fillsBoth_of_written hbinary hopened hcode hdocument
  have hleads := (Disk.opens_of_create hbinary).leads
  have hleads' := (Disk.opens_of_create_second hbinary hopened).leads
  rw [houtcome, hleads, hleads', ← hlog]
  refine ⟨?_, ?_, ?_⟩
  · rintro place h
    cases h
    exact hfill.atSecond
  · rintro place h hne
    cases h
    exact hfill.atFirst fun heq => hne (congrArg _ heq.symm)
  · intro sizes h
    rw [hlength]
    change verdict assembly = .ok sizes at h
    unfold verdict at h
    split at h <;> cases h
    rfl

/-- A file of one command, assembled into two new files. -/
theorem log_describes_code_load :
    let text := "LOAD_CONSTANT R4, #187"
    let outcome := assemble (.single "p" text.toUTF8) "p" "b" "l"
    let record : Report.Record := ⟨"LOAD_CONSTANT", 195, 4, 187, none⟩
    let listed := "- type: LOAD_CONSTANT\n  A: 195\n  B:\n    value: 4\n  C:\n    value: 187\n"
    outcome.result = .ok ⟨1, 6⟩ ∧
      record.Describes [0xC3, 0xDC, 5, 0, 0, 0] ∧
      outcome.disk.node? ["b"] = some (.file ⟨#[0xC3, 0xDC, 5, 0, 0, 0]⟩) ∧
      outcome.disk.node? ["l"] = some (.file listed.toUTF8) := by
  intro text outcome record listed
  let disk := Disk.single "p" text.toUTF8
  have hname : Disk.isEntryName "p" = true := by decide
  have hname' : Disk.isEntryName "b" = true := by decide
  have hname'' : Disk.isEntryName "l" = true := by decide
  have hread : disk.readText "p" = .ok text := Disk.readText_of_read (Disk.read_single _ hname)
  have hbinary : disk.create "b" = .ok (disk.emptied ["b"], ["b"]) := rfl
  have hlog : (disk.emptied ["b"]).create "l"
      = .ok ((disk.emptied ["b"]).emptied ["l"], ["l"]) := rfl
  obtain ⟨written, last, hcode, hdocument⟩ := Disk.exists_write_both hbinary hlog
    (Disk.noDevice_single _ hname') (Disk.noDevice_single _ hname'')
    ⟨(Assembly.ofText text).code.toArray⟩ (Report.log (Assembly.ofText text).instructions).toUTF8
  have hresult : outcome.result = .ok ⟨1, 6⟩ := by
    rw [show outcome = _ from assemble_of_written hread hbinary hlog hcode hdocument,
      show Assembly.ofText text = _ from Assembly.ofText_load]
    rfl
  have hleads := Disk.locate_of_isEntryName disk hname'
  have hleads' := Disk.locate_of_isEntryName disk hname''
  have hne : disk.locate "l" ≠ .ok ["b"] := by
    rw [hleads']
    exact fun h => absurd (List.cons.inj (Except.ok.inj h)).1 (by decide)
  obtain ⟨-, -, hdescribes, hwritten⟩ := log_describes_code text
  obtain ⟨hatLog, hatBinary, -⟩ := hwritten disk "p" "b" "l" hread (.inl ⟨_, hresult⟩)
  have hatLog := hatLog _ hleads'
  have hatBinary := hatBinary _ hleads hne
  rw [show Assembly.ofText text = _ from Assembly.ofText_load] at hdescribes hatLog hatBinary
  exact ⟨hresult, hdescribes 0 record rfl, hatBinary, hatLog⟩

/-! ### What is left behind -/

section

variable {disk emptied opened : Disk} {input binary log text : String}
  {binaryPlace logPlace : Location} {cause : DiskError}

/-- If the log cannot be opened, the binary has been emptied, and nothing else has happened. -/
theorem assemble_leaves_emptied (hdevice : disk.NoDevice binary)
    (hread : disk.readText input = .ok text)
    (hbinary : disk.create binary = .ok (emptied, binaryPlace))
    (hlog : emptied.create log = .error cause) :
    assemble disk input binary log = .failed emptied (.opening log cause) ∧
      emptied.read binary = .ok ByteArray.empty ∧
      ∀ place, place ≠ binaryPlace → emptied.node? place = disk.node? place := by
  have hopens := Disk.opens_of_create hbinary
  have hfill := Disk.fills_of_create hbinary
  have hsame := hfill.sameDirectories hopens.ne_directory
  refine ⟨assemble_of_noLog hread hbinary hlog, ?_, fun place => Disk.Puts.node?_of_ne hfill⟩
  exact Disk.read_of_received hopens hdevice hsame (Disk.Puts.node?_self hfill)

/-- If both files can be opened, they hold the log and the code in the end, be they one and the
    same, and nothing else has changed. -/
theorem assemble_leaves_written (hdevice : disk.NoDevice binary) (hdevice' : disk.NoDevice log)
    (hread : disk.readText input = .ok text)
    (hbinary : disk.create binary = .ok (emptied, binaryPlace))
    (hlog : emptied.create log = .ok (opened, logPlace)) :
    let assembly := Assembly.ofText text
    ∃ last,
      assemble disk input binary log
        = ⟨last, assembly.events ++ [closing input assembly], "", verdict assembly⟩ ∧
      last.read log = .ok (Report.log assembly.instructions).toUTF8 ∧
      (binaryPlace ≠ logPlace → last.read binary = .ok ⟨assembly.code.toArray⟩) ∧
      ∀ place, place ≠ binaryPlace → place ≠ logPlace → last.node? place = disk.node? place := by
  intro assembly
  have hopens := Disk.opens_of_create hbinary
  have hopens' := Disk.opens_of_create_second hbinary hlog
  obtain ⟨written, last, hcode, hdocument⟩ := Disk.exists_write_both hbinary hlog hdevice hdevice'
    ⟨assembly.code.toArray⟩ (Report.log assembly.instructions).toUTF8
  have hfill := fillsBoth_of_written hbinary hlog hcode hdocument
  have hsame := hfill.sameDirectories hopens.ne_directory hopens'.ne_directory
  refine ⟨last, assemble_of_written hread hbinary hlog hcode hdocument, ?_, ?_, hfill.elsewhere⟩
  · exact Disk.read_of_received hopens' hdevice' hsame hfill.atSecond
  · intro hne
    exact Disk.read_of_received hopens hdevice hsame (hfill.atFirst hne)

end

/-- Files that are no devices can be written. -/
theorem not_writeFails_assemble {disk : Disk} {input binary log : String}
    (hdevice : disk.NoDevice binary) (hdevice' : disk.NoDevice log) :
    ¬ (assemble disk input binary log).WriteFails := by
  rintro ⟨error, herror, hwrite⟩
  rcases assemble_cases disk input binary log with
    ⟨-, after, path, -, cause, houtcome⟩ | ⟨hopens, -⟩
  · rw [houtcome] at herror
    cases herror
    cases hwrite
  · obtain ⟨text, hread⟩ := hopens.input
    obtain ⟨⟨emptied, binaryPlace⟩, hbinary⟩ := hopens.binary
    obtain ⟨⟨opened, logPlace⟩, hlog⟩ := (Disk.creatable_iff_of_create hbinary).mpr hopens.log
    obtain ⟨last, houtcome, -⟩ := assemble_leaves_written hdevice hdevice' hread hbinary hlog
    rw [houtcome] at herror
    change verdict (Assembly.ofText text) = .error error at herror
    unfold verdict at herror
    split at herror <;> cases herror
    cases hwrite

/-- What assembling a file leaves behind, if neither the binary nor the log is a device.  A source
    that is not read and a binary that is not opened leave everything as it was; a log that is not
    opened leaves the binary empty; and nothing is told.  Otherwise the log and the binary hold
    what the source assembles to as it was before, whether the paths are the same or not, and the
    error that stopped assembly, if any, is told last and returned. -/
theorem assemble_leaves (disk : Disk) (input binary log : String)
    (hbinary : disk.NoDevice binary) (hlog : disk.NoDevice log) :
    let outcome := assemble disk input binary log
    (∀ cause, disk.readText input = .error cause →
      outcome = .failed disk (.opening input cause)) ∧
    ∀ text, disk.readText input = .ok text →
      (∀ cause, disk.create binary = .error cause →
        outcome = .failed disk (.opening binary cause)) ∧
      ∀ emptied binaryPlace, disk.create binary = .ok (emptied, binaryPlace) →
        ((∃ cause, emptied.create log = .error cause) ↔ ∃ cause, disk.create log = .error cause) ∧
        (∀ cause, emptied.create log = .error cause →
          outcome = .failed emptied (.opening log cause) ∧
          emptied.read binary = .ok ByteArray.empty ∧
          ∀ place, place ≠ binaryPlace → emptied.node? place = disk.node? place) ∧
        ∀ opened logPlace, emptied.create log = .ok (opened, logPlace) →
          let assembly := Assembly.ofText text
          outcome.disk.read log = .ok (Report.log assembly.instructions).toUTF8 ∧
          (binaryPlace ≠ logPlace → outcome.disk.read binary = .ok ⟨assembly.code.toArray⟩) ∧
          (Disk.isEntryName binary = true → Disk.isEntryName log = true → binary ≠ log →
            binaryPlace ≠ logPlace) ∧
          (∀ place, place ≠ binaryPlace → place ≠ logPlace →
            outcome.disk.node? place = disk.node? place) ∧
          (∀ error, outcome.result = .error (.assembling error) ↔ assembly.error = some error) ∧
          (∀ error, assembly.error = some error → outcome.events
            = assembly.events ++ [.fileStopped input error assembly.entries.length]) ∧
          (assembly.error = none →
            outcome.result = .ok ⟨assembly.entries.length, assembly.code.length⟩ ∧
            outcome.events = assembly.events ++
              [.fileAssembled input assembly.entries.length assembly.code.length]) ∧
          ∀ event ∈ assembly.events, event.level = .warn ∨ event.level = .debug := by
  intro outcome
  refine ⟨fun cause => assemble_of_unread, fun text hread => ?_⟩
  refine ⟨fun cause => assemble_of_noBinary hread, fun emptied binaryPlace hcreate => ?_⟩
  refine ⟨Disk.exists_create_eq_error_iff hcreate,
    fun cause => assemble_leaves_emptied hbinary hread hcreate, ?_⟩
  intro opened logPlace hcreate' assembly
  obtain ⟨last, houtcome, hreadLog, hreadBinary, helsewhere⟩ :=
    assemble_leaves_written hbinary hlog hread hcreate hcreate'
  rw [show outcome = _ from houtcome]
  refine ⟨hreadLog, hreadBinary, ?_, helsewhere, ?_, ?_, ?_, ?_⟩
  · -- the names of two entries lead to two places
    intro hname hname' hne heq
    have hleads := (Disk.opens_of_create hcreate).leads
    have hleads' := (Disk.opens_of_create_second hcreate hcreate').leads
    rw [Disk.locate_of_isEntryName disk hname] at hleads
    rw [Disk.locate_of_isEntryName disk hname'] at hleads'
    cases hleads
    cases hleads'
    exact hne (List.cons.inj heq).1
  · intro error
    show verdict assembly = _ ↔ _
    unfold verdict
    split
    case h_1 stopped hstopped => simp [hstopped]
    case h_2 hcomplete => simp [hcomplete]
  · intro error herror
    show assembly.events ++ [closing input assembly] = _
    rw [closing, herror]
  · intro hcomplete
    show verdict assembly = _ ∧ assembly.events ++ [closing input assembly] = _
    rw [verdict, closing, hcomplete]
    exact ⟨rfl, rfl⟩
  · intro event hmem
    exact Assembly.level_of_mem_events hmem

/-- A file that is its own binary and its own log. -/
theorem assemble_leaves_itself :
    let text := "LOAD_CONSTANT R4, #187"
    let disk := Disk.single "p" text.toUTF8
    let outcome := assemble disk "p" "p" "p"
    disk.NoDevice "p" ∧ disk.readText "p" = .ok text ∧
      outcome.disk.readText "p"
        = .ok "- type: LOAD_CONSTANT\n  A: 195\n  B:\n    value: 4\n  C:\n    value: 187\n" ∧
      outcome.result = .ok ⟨1, 6⟩ := by
  intro text disk outcome
  have hname : Disk.isEntryName "p" = true := by decide
  have hdevice : disk.NoDevice "p" := Disk.noDevice_single _ hname
  have hread : disk.readText "p" = .ok text := Disk.readText_of_read (Disk.read_single _ hname)
  have hcreate : disk.create "p" = .ok (disk.emptied ["p"], ["p"]) := rfl
  have hcreate' : (disk.emptied ["p"]).create "p" = .ok (disk.emptied ["p"], ["p"]) := rfl
  obtain ⟨-, hleaves⟩ := assemble_leaves disk "p" "p" "p" hdevice hdevice
  obtain ⟨-, hopened⟩ := hleaves text hread
  obtain ⟨-, -, hwritten⟩ := hopened _ _ hcreate
  obtain ⟨hlog, -, -, -, -, -, hcomplete, -⟩ := hwritten _ _ hcreate'
  rw [show Assembly.ofText text = _ from Assembly.ofText_load] at hlog hcomplete
  exact ⟨hdevice, hread, Disk.readText_of_read hlog, (hcomplete rfl).1⟩

end FileTask

end Quartet
