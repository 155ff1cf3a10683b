import Quartet.Proofs.Assembly.Numbering
import Quartet.Proofs.Text.Breaks

namespace Quartet

open Text

/-!
# Lines of a program

What is assembled, and what stops assembly, is found on the line of its mnemonic.  Otherwise lines
and blanks only keep tokens apart: texts with the same tokens are the same program, however they
are spaced and broken into lines.

* `Statement.mnemonics` — the mnemonics of a token sequence.
* `Assembly.map_entries_ofTokens`, `Assembly.map_error_ofTokens` — the lines of entries and errors.
* `Assembly.pairwise_entries` — entries stand in the order of their lines.
* `Assembly.ofText_lines` — tokens, entries and errors on their lines.
-/

/-! ### Mnemonics -/

namespace Statement

/-- The mnemonic of a command. -/
def mnemonic? : Statement → Option Token
  | stray _ => none
  | command _ mnemonic _ => some mnemonic

/-- The mnemonics of a token sequence, in order.  A mnemonic among the operands of a command is
    none of them. -/
def mnemonics (tokens : List Token) : List Token := (ofTokens tokens).filterMap mnemonic?

theorem mnemonics_nil : mnemonics [] = [] := by
  rw [mnemonics, ofTokens]
  rfl

theorem mnemonics_stray {token : Token} (rest : List Token)
    (h : Opcode.ofMnemonic? token.text = none) : mnemonics (token :: rest) = mnemonics rest := by
  rw [mnemonics, ofTokens, h]
  rfl

theorem mnemonics_command {token : Token} {opcode : Opcode} (rest : List Token)
    (h : Opcode.ofMnemonic? token.text = some opcode) :
    mnemonics (token :: rest) = token :: mnemonics (rest.drop opcode.tokenCount) := by
  rw [mnemonics, ofTokens, h]
  rfl

/-- Mnemonics keep their order. -/
theorem mnemonics_sublist (tokens : List Token) : (mnemonics tokens).Sublist tokens := by
  refine filterMap_ofTokens_sublist (fun statement token h => ?_) tokens
  cases statement with
  | stray token => cases h
  | command opcode mnemonic operands =>
    cases h
    exact List.mem_cons_self

end Statement

namespace Assembly

/-! ### Entries and errors -/

/-- A mnemonic is refused on its line. -/
theorem Refuses.line_eq {opcode : Opcode} {mnemonic : Token} {later : List Token}
    {error : AssemblyError} (h : Refuses opcode mnemonic later error) :
    error.line = mnemonic.line := by
  cases h <;> rfl

/-- Entries belong to the first mnemonics, in order, and have their lines. -/
theorem map_entries_ofTokens (tokens : List Token) :
    (ofTokens tokens).entries.map (fun entry => (entry.instruction.opcode.mnemonic, entry.line))
      = ((Statement.mnemonics tokens).take (ofTokens tokens).entries.length).map
          fun mnemonic => (mnemonic.text, mnemonic.line) := by
  induction tokens using commandwise with
  | finished =>
    rw [ofTokens_nil]
    rfl
  | stray token rest hstray ih =>
    rw [ofTokens_stray rest hstray, Statement.mnemonics_stray rest hstray, ih]
  | stop token rest opcode error hopcode hentry =>
    rw [ofTokens_stop rest hopcode hentry]
    rfl
  | command token rest opcode entry hopcode hentry ih =>
    obtain ⟨-, hinstruction, -, hline⟩ := Statement.entry_eq_ok_iff.mp hentry
    have htext : token.text = entry.instruction.opcode.mnemonic := by
      rw [(Operand.follows_of_instruction hinstruction).opcode_eq]
      exact Opcode.ofMnemonic?_eq_some_iff.mp hopcode
    rw [ofTokens_command rest hopcode hentry, Statement.mnemonics_command rest hopcode,
      List.map_cons, ih, List.length_cons, List.take_succ_cons, List.map_cons, htext, hline]

/-- The error belongs to the mnemonic behind those of the entries, and has its line.  Without an
    error there is no such mnemonic. -/
theorem map_error_ofTokens (tokens : List Token) :
    (ofTokens tokens).error.map AssemblyError.line
      = (Statement.mnemonics tokens)[(ofTokens tokens).entries.length]?.map Token.line := by
  induction tokens using commandwise with
  | finished =>
    rw [ofTokens_nil, Statement.mnemonics_nil]
    rfl
  | stray token rest hstray ih =>
    rw [ofTokens_stray rest hstray, Statement.mnemonics_stray rest hstray, ih]
  | stop token rest opcode error hopcode hentry =>
    rw [ofTokens_stop rest hopcode hentry, Statement.mnemonics_command rest hopcode]
    exact congrArg some (refuses_of_entry hentry).line_eq
  | command token rest opcode entry hopcode hentry ih =>
    rw [ofTokens_command rest hopcode hentry, Statement.mnemonics_command rest hopcode,
      List.length_cons, List.getElem?_cons_succ, ih]

/-- Entries stand in the order of their lines, because the tokens of a text do. -/
theorem pairwise_entries (text : String) :
    (ofText text).entries.Pairwise (·.line ≤ ·.line) := by
  have htokens : (Token.ofText text).Pairwise (·.line ≤ ·.line) := Token.pairwise_ofLines _ _
  have hmnemonics := htokens.sublist <|
    (List.take_sublist (ofText text).entries.length _).trans (Statement.mnemonics_sublist _)
  have hlines := congrArg (List.map Prod.snd) (map_entries_ofTokens (Token.ofText text))
  rw [List.map_map, List.map_map] at hlines
  have hentries : ((ofText text).entries.map (·.line)).Pairwise (· ≤ ·) := by
    refine (hlines : (ofText text).entries.map (·.line) = _) ▸ ?_
    exact List.pairwise_map.mpr hmnemonics
  exact List.pairwise_map.mp hentries

/-! ### Whole texts -/

/-- The tokens of a text are those of its lines, and they are its words, wherever lines end.  The
    line of a token is one more than the number of line feeds before it.  Entries stand in the order
    of their lines.  They belong to the first mnemonics of the text and have their lines; the error
    belongs to the next mnemonic and has its line.  And a text with the same tokens, however it is
    spaced and broken into lines, is assembled to the same, but for the lines. -/
theorem ofText_lines (text : String) :
    (Token.ofText text = ((Text.lines text.toList).zipIdx 1).flatMap fun (chars, line) =>
      Token.ofLine line chars) ∧
    (Token.ofText text).map (·.text) = (words isBlank text.toList).map String.ofList ∧
    (∀ before token later, Token.ofText text = before ++ token :: later →
      ∃ front back, text.toList = front ++ token.text.toList ++ back ∧ token.Stands front back ∧
        token.line = 1 + front.count '\n' ∧ Token.ofText (String.ofList front) = before) ∧
    (ofText text).entries.Pairwise (·.line ≤ ·.line) ∧
    (let mnemonics := Statement.mnemonics (Token.ofText text)
      let count := (ofText text).entries.length
      ((ofText text).entries.map fun entry => (entry.instruction.opcode.mnemonic, entry.line))
        = (mnemonics.take count).map (fun mnemonic => (mnemonic.text, mnemonic.line)) ∧
      (ofText text).error.map AssemblyError.line = mnemonics[count]?.map Token.line) ∧
    ∀ other, (Token.ofText other).map (·.text) = (Token.ofText text).map (·.text) →
      (ofText other).renumber (fun _ => 0) = (ofText text).renumber (fun _ => 0) := by
  refine ⟨Token.ofText_eq_lines text, Token.map_text_ofChars 1 _, ?_, pairwise_entries text,
    ⟨map_entries_ofTokens _, map_error_ofTokens _⟩, fun other => ofTokens_renumber_of_texts⟩
  intro before token later h
  obtain ⟨front, back, htext, hstands, hline, hfront⟩ := Token.exists_before h
  refine ⟨front, back, htext, hstands, hline, ?_⟩
  rw [Token.ofText_eq, String.toList_ofList, hfront]

/-- Tokens with six kinds of blanks between them, of which only the line feed counts: neither the
    carriage return before it and the one that stands alone, nor the next line, the line separator
    and the form feed.  The same tokens in one line are the same program. -/
theorem ofText_lines_breaks :
    let text := "x\rLOAD_CONSTANT\u0085R4,\u2028#187\r\nMEMORY_READ\nR5\x0c[R4]"
    let read : Token := ⟨"MEMORY_READ", 2⟩
    Token.ofText text = [⟨"x", 1⟩, ⟨"LOAD_CONSTANT", 1⟩, ⟨"R4,", 1⟩, ⟨"#187", 1⟩] ++
        read :: [⟨"R5", 3⟩, ⟨"[R4]", 3⟩] ∧
      (∃ front back, text.toList = front ++ "MEMORY_READ".toList ++ back ∧
        read.Stands front back ∧ 2 = 1 + front.count '\n') ∧
      (ofText "x LOAD_CONSTANT R4, #187 MEMORY_READ R5 [R4]").renumber (fun _ => 0)
        = (ofText text).renumber (fun _ => 0) := by
  intro text read
  have htokens : Token.ofText text = [⟨"x", 1⟩, ⟨"LOAD_CONSTANT", 1⟩, ⟨"R4,", 1⟩, ⟨"#187", 1⟩] ++
      read :: [⟨"R5", 3⟩, ⟨"[R4]", 3⟩] := by decide
  have hother : Token.ofText "x LOAD_CONSTANT R4, #187 MEMORY_READ R5 [R4]"
      = [⟨"x", 1⟩, ⟨"LOAD_CONSTANT", 1⟩, ⟨"R4,", 1⟩, ⟨"#187", 1⟩] ++
        [⟨"MEMORY_READ", 1⟩, ⟨"R5", 1⟩, ⟨"[R4]", 1⟩] := by
    decide
  obtain ⟨-, -, hplaces, -, -, hsame⟩ := ofText_lines text
  obtain ⟨front, back, htext, hstands, hline, -⟩ := hplaces _ read _ htokens
  refine ⟨htokens, ⟨front, back, htext, hstands, hline⟩, hsame _ ?_⟩
  rw [hother, htokens]
  rfl

end Assembly

end Quartet
