import Quartet.Assembly.Basic
import Quartet.Proofs.Assembly.Forms

namespace Quartet

/-!
# Commands

A command is checked in three stages: there are enough tokens, they follow the grammar, and the
operands fit.  Assembly goes on after a command that passes and stops at one that does not.

* `Operand.instruction_ne_unexpectedEnd` — only the first stage finds tokens missing.
* `Statement.entry_eq_ok_iff` — what a command that passes assembles to.
* `Statement.entry_of_short`, `Statement.entry_of_malformed`, `Statement.entry_of_unencodable` —
  the error of each stage.
* `Assembly.ofTokens_stray`, `Assembly.ofTokens_command`, `Assembly.ofTokens_stop` — assembly by
  its first token.
* `Assembly.commandwise` — induction on tokens as assembly takes them.
-/

/-! ### Operands -/

namespace Operand

/-- As many tokens as the opcode asks for are never too few. -/
theorem instruction_ne_unexpectedEnd {opcode : Opcode} {texts : List String}
    (h : texts.length = opcode.tokenCount) :
    instruction opcode texts ≠ .error .unexpectedEnd := by
  intro herror
  -- it would be the error of one of the checks
  obtain ⟨check, hmem, -, hcause⟩ := ((governs_instruction opcode texts _).mp herror).exists_mem
  cases opcode with
  | loadConstant =>
    obtain ⟨target, constant, rfl⟩ := List.length_eq_two.mp h
    simp only [checks, numbered] at hmem
    grind
  | memoryRead =>
    obtain ⟨target, source, rfl⟩ := List.length_eq_two.mp h
    simp only [checks, numbered] at hmem
    grind
  | memoryWrite =>
    obtain ⟨pointer, plus, distance, origin, rfl⟩ := List.length_eq_four.mp h
    simp only [checks, numbered] at hmem
    grind
  | bitwiseOr =>
    obtain ⟨target, cell, pipe, origin, rfl⟩ := List.length_eq_four.mp h
    simp only [checks, numbered] at hmem
    grind

end Operand

/-! ### One command -/

namespace Statement

/-- Tokens that are picked from statements, no more than one from each, keep their order. -/
theorem filterMap_ofTokens_sublist {pick : Statement → Option Token}
    (h : ∀ statement, ∀ token ∈ pick statement, token ∈ statement.tokens) (tokens : List Token) :
    ((ofTokens tokens).filterMap pick).Sublist tokens := by
  have hwhole := flatMap_tokens_ofTokens tokens
  generalize ofTokens tokens = statements at hwhole
  subst hwhole
  induction statements with
  | nil => exact .slnil
  | cons statement rest ih =>
    rw [List.filterMap_cons, List.flatMap_cons]
    cases hpick : pick statement with
    | none => exact ih.trans (List.sublist_append_right _ _)
    | some token => exact (List.singleton_sublist.mpr (h statement token hpick)).append ih

/-- The error of a command that does not follow the grammar: its opcode, its mnemonic with its
    line, and the operand tokens as they were read. -/
def syntaxError (opcode : Opcode) (mnemonic : Token) (operands : List Token)
    (cause : SyntaxError.Cause) : SyntaxError :=
  ⟨opcode, mnemonic.text, operands.map (·.text), mnemonic.line, cause⟩

section

variable {opcode : Opcode} {mnemonic : Token} {operands : List Token}

/-- Too few tokens are an error, whatever they are. -/
theorem entry_of_short (h : operands.length < opcode.tokenCount) :
    entry opcode mnemonic operands
      = .error (.malformed (syntaxError opcode mnemonic operands .unexpectedEnd)) :=
  if_pos h

/-- The broken rule is the error, if there are enough tokens. -/
theorem entry_of_malformed {cause : SyntaxError.Cause}
    (hcount : opcode.tokenCount ≤ operands.length)
    (hcause : Operand.instruction opcode (operands.map (·.text)) = .error cause) :
    entry opcode mnemonic operands
      = .error (.malformed (syntaxError opcode mnemonic operands cause)) := by
  unfold entry
  rw [if_neg (Nat.not_lt.mpr hcount), hcause]
  rfl

/-- The encoder's error is the error, if the tokens follow the grammar. -/
theorem entry_of_unencodable {instruction : Instruction} {error : EncodeError}
    (hcount : opcode.tokenCount ≤ operands.length)
    (hinstruction : Operand.instruction opcode (operands.map (·.text)) = .ok instruction)
    (herror : CodeWord.encode instruction = .error error) :
    entry opcode mnemonic operands = .error (.unencodable mnemonic.line error) := by
  unfold entry
  rw [if_neg (Nat.not_lt.mpr hcount)]
  simp only [hinstruction, herror]

/-- A command that passes all stages is assembled to its instruction, its code word and the line
    of its mnemonic. -/
theorem entry_eq_ok_iff {entry : Entry} :
    Statement.entry opcode mnemonic operands = .ok entry ↔
      opcode.tokenCount ≤ operands.length ∧
        Operand.instruction opcode (operands.map (·.text)) = .ok entry.instruction ∧
        CodeWord.encode entry.instruction = .ok entry.word ∧ entry.line = mnemonic.line := by
  constructor
  · intro h
    by_cases hshort : operands.length < opcode.tokenCount
    · rw [entry_of_short hshort] at h
      cases h
    have hcount := Nat.not_lt.mp hshort
    cases hinstruction : Operand.instruction opcode (operands.map (·.text)) with
    | error cause =>
      rw [entry_of_malformed hcount hinstruction] at h
      cases h
    | ok instruction =>
      cases hword : CodeWord.encode instruction with
      | error error =>
        rw [entry_of_unencodable hcount hinstruction hword] at h
        cases h
      | ok word =>
        unfold Statement.entry at h
        rw [if_neg hshort] at h
        simp only [hinstruction, hword, Except.ok.injEq] at h
        subst h
        exact ⟨hcount, rfl, hword, rfl⟩
  · rintro ⟨hcount, hinstruction, hword, hline⟩
    unfold Statement.entry
    rw [if_neg (Nat.not_lt.mpr hcount)]
    simp only [hinstruction, hword, ← hline]

end

end Statement

/-! ### The first token -/

namespace Assembly

variable {token : Token} (rest : List Token)

theorem ofTokens_nil : ofTokens [] = ⟨[], none, []⟩ := by
  rw [ofTokens, Statement.ofTokens]
  rfl

/-- A stray token is told and passed over. -/
theorem ofTokens_stray (h : Opcode.ofMnemonic? token.text = none) :
    ofTokens (token :: rest)
      = { ofTokens rest with events := .strayToken token :: (ofTokens rest).events } := by
  rw [ofTokens, Statement.ofTokens, h]
  rfl

/-- After a command that is assembled, assembly goes on behind its operands. -/
theorem ofTokens_command {opcode : Opcode} {entry : Entry}
    (h : Opcode.ofMnemonic? token.text = some opcode)
    (hentry : Statement.entry opcode token (rest.take opcode.tokenCount) = .ok entry) :
    ofTokens (token :: rest)
      = { ofTokens (rest.drop opcode.tokenCount) with
          entries := entry :: (ofTokens (rest.drop opcode.tokenCount)).entries
          events := .assembled entry :: (ofTokens (rest.drop opcode.tokenCount)).events } := by
  rw [ofTokens, Statement.ofTokens, h]
  simp only [ofStatements, hentry]
  rfl

/-- A command that is not assembled stops assembly. -/
theorem ofTokens_stop {opcode : Opcode} {error : AssemblyError}
    (h : Opcode.ofMnemonic? token.text = some opcode)
    (herror : Statement.entry opcode token (rest.take opcode.tokenCount) = .error error) :
    ofTokens (token :: rest) = ⟨[], some error, []⟩ := by
  rw [ofTokens, Statement.ofTokens, h]
  simp only [ofStatements, herror]

/-- Induction on tokens as assembly takes them, command by command. -/
@[elab_as_elim]
theorem commandwise {motive : List Token → Prop} (finished : motive [])
    (stray : ∀ token rest, Opcode.ofMnemonic? token.text = none → motive rest →
      motive (token :: rest))
    (stop : ∀ token rest opcode error, Opcode.ofMnemonic? token.text = some opcode →
      Statement.entry opcode token (rest.take opcode.tokenCount) = .error error →
        motive (token :: rest))
    (command : ∀ token rest opcode entry, Opcode.ofMnemonic? token.text = some opcode →
      Statement.entry opcode token (rest.take opcode.tokenCount) = .ok entry →
        motive (rest.drop opcode.tokenCount) → motive (token :: rest))
    (tokens : List Token) : motive tokens := by
  fun_induction Statement.ofTokens tokens with
  | case1 => exact finished
  | case2 token rest hstray ih => exact stray token rest hstray ih
  | case3 token rest opcode hopcode ih =>
    cases hentry : Statement.entry opcode token (rest.take opcode.tokenCount) with
    | error error => exact stop token rest opcode error hopcode hentry
    | ok entry => exact command token rest opcode entry hopcode hentry ih

/-- What was assembled has the code words of its instructions. -/
theorem encode_of_mem_entries {tokens : List Token} {entry : Entry}
    (h : entry ∈ (ofTokens tokens).entries) :
    CodeWord.encode entry.instruction = .ok entry.word := by
  induction tokens using commandwise with
  | finished =>
    rw [ofTokens_nil] at h
    cases h
  | stray token rest hstray ih =>
    rw [ofTokens_stray rest hstray] at h
    exact ih h
  | stop token rest opcode error hopcode hentry =>
    rw [ofTokens_stop rest hopcode hentry] at h
    cases h
  | command token rest opcode first hopcode hentry ih =>
    rw [ofTokens_command rest hopcode hentry] at h
    rcases List.mem_cons.mp h with rfl | h
    · exact (Statement.entry_eq_ok_iff.mp hentry).2.2.1
    · exact ih h

end Assembly

end Quartet
