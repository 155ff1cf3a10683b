import Quartet.Proofs.Assembly.Commands
import Quartet.Proofs.Assembly.Operands
import Quartet.Proofs.Text.Words

namespace Quartet

open Text

/-!
# Listings

A listing names instructions by their texts, one on each line.  It is assembled to the
instructions it lists, up to the first that has no code word.

* `Instruction.listing` — the listing of instructions.
* `Token.tokens_of_listing` — the tokens of a listing.
* `Assembly.Lists` — an entry that was made from an instruction on its line.
* `Assembly.ofText_listing` — what a listing is assembled to.
-/

namespace Instruction

/-- The texts of instructions, one on each line. -/
def listing (instructions : List Instruction) : String :=
  "\n".intercalate (instructions.map text)

/-- The operand tokens of an instruction's text on a line. -/
def operandTokens (instruction : Instruction) (line : Nat) : List Token :=
  instruction.operandTexts.map fun text => ⟨text, line⟩

/-- The tokens of an instruction's text on a line. -/
def tokens (instruction : Instruction) (line : Nat) : List Token :=
  ⟨instruction.opcode.mnemonic, line⟩ :: instruction.operandTokens line

@[simp] theorem length_operandTokens (instruction : Instruction) (line : Nat) :
    (instruction.operandTokens line).length = instruction.opcode.tokenCount := by
  rw [operandTokens, List.length_map, length_operandTexts]

/-- The mnemonic and the operand tokens of an instruction's text are tokens each. -/
theorem isWord_tokens (instruction : Instruction) :
    ∀ text ∈ instruction.opcode.mnemonic :: instruction.operandTexts, Token.isWord text = true :=
  List.forall_mem_cons.mpr ⟨instruction.opcode.isWord_mnemonic, instruction.isWord_operandTexts⟩

theorem toList_text (instruction : Instruction) :
    instruction.text.toList = [' '].intercalate
      ((instruction.opcode.mnemonic :: instruction.operandTexts).map String.toList) := by
  rw [text_eq, String.toList_intercalate]
  rfl

/-- The text of an instruction has no line break. -/
theorem ne_newline_of_mem_text {instruction : Instruction} {c : Char}
    (h : c ∈ instruction.text.toList) : (c == '\n') = false := by
  rw [toList_text] at h
  rw [beq_eq_false_iff_ne]
  rcases mem_intercalate h with h | ⟨chars, hchars, hmem⟩
  · rw [List.mem_singleton.mp h]
    decide
  · obtain ⟨text, htext, rfl⟩ := List.mem_map.mp hchars
    exact ne_newline_of_isBlank
      ((Token.isWord_iff.mp (instruction.isWord_tokens text htext)).2 c hmem)

/-- An instruction is read back from its operand tokens, whatever line they stand on. -/
theorem instruction_operandTokens (instruction : Instruction) (line : Nat) :
    Operand.instruction instruction.opcode ((instruction.operandTokens line).map (·.text))
      = .ok instruction := by
  have htexts : (instruction.operandTokens line).map (·.text) = instruction.operandTexts := by
    rw [operandTokens, List.map_map]
    exact List.map_id _
  rw [htexts, Operand.instruction_operandTexts]

end Instruction

namespace Token

/-- The tokens of a line that names an instruction. -/
theorem ofLine_text (instruction : Instruction) (line : Nat) :
    ofLine line instruction.text.toList = instruction.tokens line := by
  have hwords : words isBlank instruction.text.toList
      = (instruction.opcode.mnemonic :: instruction.operandTexts).map String.toList := by
    rw [Instruction.toList_text]
    refine words_intercalate (by decide) ?_ ?_ (by simp)
    · intro chars hchars
      obtain ⟨text, htext, rfl⟩ := List.mem_map.mp hchars
      exact (Token.isWord_iff.mp (instruction.isWord_tokens text htext)).2
    · intro chars hchars
      obtain ⟨text, htext, rfl⟩ := List.mem_map.mp hchars
      exact (Token.isWord_iff.mp (instruction.isWord_tokens text htext)).1
  rw [ofLine, hwords, List.map_map]
  simp [Instruction.tokens, Instruction.operandTokens]

/-- The tokens of a listing are those of its instructions, each on its line. -/
theorem tokens_of_listing (instructions : List Instruction) :
    ofText (Instruction.listing instructions)
      = (instructions.zipIdx 1).flatMap fun (instruction, line) => instruction.tokens line := by
  cases instructions with
  -- an empty listing is an empty text, which is one empty line
  | nil => decide
  | cons first rest =>
    have hpieces : pieces (· == '\n') (Instruction.listing (first :: rest)).toList
        = (first :: rest).map fun instruction => instruction.text.toList := by
      rw [Instruction.listing, String.toList_intercalate, List.map_map]
      refine pieces_intercalate (by decide) ?_ (by simp)
      intro chars hchars
      obtain ⟨instruction, -, rfl⟩ := List.mem_map.mp hchars
      exact fun c hmem => Instruction.ne_newline_of_mem_text hmem
    rw [ofText, hpieces, List.zipIdx_map, List.flatMap_map]
    simp only [Prod.map, ofLine_text, id]

end Token

namespace Assembly

/-! ### One line of a listing -/

/-- Whether an entry is made from an instruction and the number of its line. -/
def Lists : Instruction × Nat → Entry → Prop
  | (instruction, line), entry =>
    entry.instruction = instruction ∧ CodeWord.encode instruction = .ok entry.word ∧
      entry.line = line

section

variable {instruction : Instruction} (line : Nat) (later : List Token)

/-- A listed instruction with a code word is assembled, and assembly goes on behind it. -/
theorem ofTokens_tokens_of_ok {word : CodeWord} (h : CodeWord.encode instruction = .ok word) :
    ofTokens (instruction.tokens line ++ later)
      = { ofTokens later with
          entries := ⟨instruction, word, line⟩ :: (ofTokens later).entries
          events := .assembled ⟨instruction, word, line⟩ :: (ofTokens later).events } := by
  have hlength := instruction.length_operandTokens line
  have hinstruction := instruction.instruction_operandTokens line
  -- the mnemonic takes exactly the operand tokens of its instruction
  have hentry : Statement.entry instruction.opcode ⟨instruction.opcode.mnemonic, line⟩
      ((instruction.operandTokens line ++ later).take instruction.opcode.tokenCount)
        = .ok ⟨instruction, word, line⟩ := by
    rw [List.take_left' hlength]
    exact Statement.entry_eq_ok_iff.mpr ⟨Nat.le_of_eq hlength.symm, hinstruction, h, rfl⟩
  have hcommand := ofTokens_command _ (Opcode.ofMnemonic?_mnemonic instruction.opcode) hentry
  rw [List.drop_left' hlength] at hcommand
  exact hcommand

/-- A listed instruction without a code word stops assembly. -/
theorem ofTokens_tokens_of_error {error : EncodeError}
    (h : CodeWord.encode instruction = .error error) :
    ofTokens (instruction.tokens line ++ later) = ⟨[], some (.unencodable line error), []⟩ := by
  have hlength := instruction.length_operandTokens line
  have hinstruction := instruction.instruction_operandTokens line
  have hentry : Statement.entry instruction.opcode ⟨instruction.opcode.mnemonic, line⟩
      ((instruction.operandTokens line ++ later).take instruction.opcode.tokenCount)
        = .error (.unencodable line error) := by
    rw [List.take_left' hlength]
    exact Statement.entry_of_unencodable (Nat.le_of_eq hlength.symm) hinstruction h
  exact ofTokens_stop _ (Opcode.ofMnemonic?_mnemonic instruction.opcode) hentry

end

/-! ### Whole listings -/

/-- What instructions are assembled to whose tokens stand on the lines from `first` on. -/
theorem ofTokens_listed (instructions : List Instruction) (first : Nat) :
    let assembly := ofTokens <| (instructions.zipIdx first).flatMap
      fun (instruction, line) => instruction.tokens line
    assembly.events = assembly.entries.map .assembled ∧
      (List.Forall₂ Lists (instructions.zipIdx first) assembly.entries ∧ assembly.error = none ∨
        ∃ before instruction after error, instructions = before ++ instruction :: after ∧
          List.Forall₂ Lists (before.zipIdx first) assembly.entries ∧
          CodeWord.encode instruction = .error error ∧
          assembly.error = some (.unencodable (before.length + first) error)) := by
  induction instructions generalizing first with
  | nil =>
    dsimp only
    rw [List.zipIdx_nil, List.flatMap_nil, ofTokens_nil]
    exact ⟨rfl, .inl ⟨.nil, rfl⟩⟩
  | cons instruction rest ih =>
    obtain ⟨hevents, hrest⟩ := ih (first + 1)
    dsimp only
    rw [List.zipIdx_cons, List.flatMap_cons]
    cases hword : CodeWord.encode instruction with
    -- assembly stops here, or where it stops in the rest
    | error error =>
      rw [ofTokens_tokens_of_error first _ hword]
      refine ⟨rfl, .inr ⟨[], instruction, rest, error, rfl, .nil, hword, ?_⟩⟩
      rw [List.length_nil, Nat.zero_add]
    | ok word =>
      rw [ofTokens_tokens_of_ok first _ hword]
      refine ⟨congrArg _ hevents, ?_⟩
      rcases hrest with ⟨hentries, herror⟩ |
        ⟨before, rejected, after, error, rfl, hentries, hrejected, herror⟩
      · exact .inl ⟨.cons ⟨rfl, hword, rfl⟩ hentries, herror⟩
      · refine .inr ⟨instruction :: before, rejected, after, error, rfl,
          .cons ⟨rfl, hword, rfl⟩ hentries, hrejected, ?_⟩
        rw [herror, List.length_cons, Nat.add_assoc, Nat.add_comm 1]

/-- A listing has no stray token, and is assembled to what it lists.  If all instructions have
    code words, assembly is complete, with one entry for each line; else it holds the entries of
    the lines before the first instruction that has none, and stops with the encoder's error. -/
theorem ofText_listing (instructions : List Instruction) :
    let assembly := ofText (Instruction.listing instructions)
    assembly.events = assembly.entries.map .assembled ∧
      (List.Forall₂ Lists (instructions.zipIdx 1) assembly.entries ∧ assembly.error = none ∨
        ∃ before instruction after error, instructions = before ++ instruction :: after ∧
          List.Forall₂ Lists (before.zipIdx 1) assembly.entries ∧
          CodeWord.encode instruction = .error error ∧
          assembly.error = some (.unencodable (before.length + 1) error)) := by
  rw [ofText, Token.tokens_of_listing]
  exact ofTokens_listed instructions 1

end Assembly

end Quartet
