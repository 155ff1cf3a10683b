import Quartet.Proofs.Assembly.Grammar
import Quartet.Proofs.Report.Lines
import Quartet.Proofs.Text.Delimiting

namespace Quartet

open Text

/-!
# Faithful documents

Nothing of what a document lists is lost in its text.  A record is made of lines, and its first
line says how many more there are, so that records that follow each other are never confused; and
no record begins like the text of an empty list.

* `Report.selfDelimiting_memoryRecord`, `Report.selfDelimiting_logRecord` — records show where they
  end.
* `Report.memory_inj`, `Report.log_inj` — a document has only one list.
* `Report.documents_faithful` — both documents.
-/

namespace Report

/-! ### Records of memory -/

theorem memoryRecord_eq (cell : Nat × Word) :
    memoryRecord cell
      = ("- ID: " ++ toString cell.1 ++ "\n")
        ++ ("  VALUE: " ++ toString cell.2.toNat ++ "\n") := by
  rw [memoryRecord_eq_ofLines, cellLines, ofLines_cons, ofLines_cons, ofLines_nil,
    String.append_empty]
  rfl

theorem selfDelimiting_memoryRecord : SelfDelimiting memoryRecord := by
  have hindex := selfDelimiting_numberLine "- ID: " (by decide)
  have hvalue := (selfDelimiting_numberLine "  VALUE: " (by decide)).comp
    fun (_ _ : Word) => UInt32.toNat_inj.mp
  exact (hindex.append hvalue).of_eq memoryRecord_eq

/-! ### Records of the log -/

theorem logField_eq (letter : Char) (value : Word) :
    logField letter value
      = s!"  {letter}:" ++ "\n" ++ ("    value: " ++ toString value.toNat ++ "\n") := by
  rw [logField_eq_ofLines, ofLines_cons, ofLines_cons, ofLines_nil, String.append_empty]
  rfl

theorem selfDelimiting_logField (letter : Char) : SelfDelimiting (logField letter) := by
  have hvalue := (selfDelimiting_numberLine "    value: " (by decide)).comp
    fun (_ _ : Word) => UInt32.toNat_inj.mp
  exact (hvalue.prepend _).of_eq (logField_eq letter)

/-- Fields with given letters are known from their texts, if it is known how many there are. -/
theorem fields_inj {letters : List Char} {values others : List Word} {rest behind : List Char}
    (hlength : values.length = others.length) (hletters : values.length ≤ letters.length)
    (h : (String.join (letters.zipWith logField values)).toList ++ rest
      = (String.join (letters.zipWith logField others)).toList ++ behind) :
    values = others ∧ rest = behind := by
  induction letters generalizing values others with
  | nil =>
    obtain rfl : values = [] := List.length_eq_zero_iff.mp (Nat.le_zero.mp hletters)
    obtain rfl : others = [] := List.length_eq_zero_iff.mp hlength.symm
    exact ⟨rfl, h⟩
  | cons letter letters ih =>
    match values, others with
    | [], [] => exact ⟨rfl, h⟩
    | value :: values, other :: others =>
      simp only [List.zipWith_cons_cons, String.join_cons, String.toList_append,
        List.append_assoc] at h
      obtain ⟨rfl, hmore⟩ := selfDelimiting_logField letter _ _ _ _ h
      obtain ⟨rfl, hrest⟩ :=
        ih (Nat.succ.inj hlength) (Nat.le_of_succ_le_succ hletters) hmore
      exact ⟨rfl, hrest⟩

/-- The first line of a record. -/
def typeLine (opcode : Opcode) : String := "- type: " ++ opcode.mnemonic ++ "\n"

/-- The second line of a record. -/
def tagLine (opcode : Opcode) : String := "  A: " ++ toString opcode.tag ++ "\n"

theorem logRecord_eq (instruction : Instruction) :
    logRecord instruction
      = typeLine instruction.opcode ++ (tagLine instruction.opcode ++
          String.join (Instruction.fieldLetters.zipWith logField instruction.fields)) := by
  rw [logRecord_eq_ofLines, ofLines_cons, ofLines_cons, ofLines_nil, String.append_empty,
    String.append_assoc]
  rfl

/-- The first line of a record tells its opcode. -/
theorem selfDelimiting_typeLine : SelfDelimiting typeLine := by
  refine selfDelimiting_line (fun first second h => ?_) fun opcode => ?_
  · exact Opcode.mnemonic_injective ((String.append_right_inj "- type: ").mp h)
  · cases opcode <;> decide

theorem selfDelimiting_logRecord : SelfDelimiting logRecord := by
  intro instruction other rest behind h
  simp only [logRecord_eq, String.toList_append, List.append_assoc] at h
  obtain ⟨hopcode, hmore⟩ := selfDelimiting_typeLine _ _ _ _ h
  -- the opcode decides on the tag and on the number of fields
  rw [hopcode] at hmore
  have hlength : instruction.fields.length = other.fields.length := by
    rw [← Layout.length_fields .canonical, ← Layout.length_fields .canonical, hopcode]
  have hletters : instruction.fields.length ≤ Instruction.fieldLetters.length := by
    cases instruction <;> simp [Instruction.fields, Instruction.fieldLetters]
  obtain ⟨hfields, hrest⟩ := fields_inj hlength hletters (List.append_cancel_left hmore)
  have hinstruction := Instruction.ofFields?_fields instruction
  rw [hopcode, hfields, Instruction.ofFields?_fields] at hinstruction
  exact ⟨(Option.some.inj hinstruction).symm, hrest⟩

/-! ### Documents -/

/-- Every record begins with a dash. -/
theorem head?_memoryRecord (cell : Nat × Word) : (memoryRecord cell).toList.head? = some '-' := by
  simp [memoryRecord_eq]

theorem head?_logRecord (instruction : Instruction) :
    (logRecord instruction).toList.head? = some '-' := by
  simp [logRecord_eq, typeLine]

theorem ne_empty_of_head? {text : String} {c : Char} (h : text.toList.head? = some c) :
    text ≠ "" := by
  rintro rfl
  cases h

/-- The report of memory has only one list of cells. -/
theorem memory_inj {cells others : List (Nat × Word)} :
    memory cells = memory others ↔ cells = others := by
  refine ⟨fun h => ?_, fun h => by rw [h]⟩
  -- behind the name of the list there is a space only if it is empty
  have hfirst : ∀ cell rest, memory [] ≠ memory (cell :: rest) := by
    intro cell rest heq
    have hchar := congrArg (·.toList[7]?) heq
    simp [memory] at hchar
  match cells, others with
  | [], [] => rfl
  | [], other :: behind => exact absurd h (hfirst other behind)
  | cell :: rest, [] => exact absurd h.symm (hfirst cell rest)
  | cell :: rest, other :: behind =>
    have hjoined := (String.append_right_inj "memory:\n").mp h
    exact (selfDelimiting_memoryRecord.join_inj
      fun cell => ne_empty_of_head? (head?_memoryRecord cell)).mp hjoined

/-- The log has only one list of instructions. -/
theorem log_inj {instructions others : List Instruction} :
    log instructions = log others ↔ instructions = others := by
  refine ⟨fun h => ?_, fun h => by rw [h]⟩
  -- a record does not begin with a bracket
  have hfirst : ∀ instruction rest, log [] ≠ log (instruction :: rest) := by
    intro instruction rest heq
    have hchar := congrArg (·.toList.head?) heq
    simp [log, head?_logRecord] at hchar
  match instructions, others with
  | [], [] => rfl
  | [], other :: behind => exact absurd h (hfirst other behind)
  | instruction :: rest, [] => exact absurd h.symm (hfirst instruction rest)
  | instruction :: rest, other :: behind =>
    exact (selfDelimiting_logRecord.join_inj
      fun instruction => ne_empty_of_head? (head?_logRecord instruction)).mp h

/-- Two reports of memory are the same text exactly if they report the same cells in the same
    order, and so are two logs with regard to their instructions. -/
theorem documents_faithful (cells cells' : List (Nat × Word))
    (instructions instructions' : List Instruction) :
    (memory cells = memory cells' ↔ cells = cells') ∧
      (log instructions = log instructions' ↔ instructions = instructions') :=
  ⟨memory_inj, log_inj⟩

end Report

end Quartet
