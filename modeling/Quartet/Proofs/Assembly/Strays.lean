import Quartet.Proofs.Assembly.Grammar
import Quartet.Proofs.Log.Lines

namespace Quartet

open Text

/-!
# What an assembly tells

Assembly warns of each token that stands alone, as far as it reads, and of nothing else.  Neither
such a token nor the error that stops assembly brings a line break into what is told.

* `Statement.strays` — the tokens of a sequence that stand alone.
* `Assembly.Accepts.warnings`, `Assembly.Accepts.warnings_of_stops` — the warnings of an assembly.
* `Assembly.isUnbroken_message` — the message of its error.
-/

/-! ### Tokens -/

/-- No token holds a line break. -/
theorem Token.isUnbroken_of_mem_ofText {text : String} {token : Token} (h : token ∈ ofText text) :
    IsUnbroken token.text := by
  obtain ⟨⟨chars, line⟩, -, hline⟩ := List.mem_flatMap.mp h
  obtain ⟨word, hword, rfl⟩ := List.mem_map.mp hline
  intro c hmem
  rw [String.toList_ofList] at hmem
  exact ne_newline_of_isBlank (forall_of_mem_words hword c hmem)

namespace Statement

/-- The token of a statement that is no command. -/
def stray? : Statement → Option Token
  | stray token => some token
  | command .. => none

/-- The tokens of a sequence that stand alone, in order. -/
def strays (tokens : List Token) : List Token := (ofTokens tokens).filterMap stray?

theorem strays_nil : strays [] = [] := by
  rw [strays, ofTokens]
  rfl

theorem strays_stray {token : Token} (rest : List Token)
    (h : Opcode.ofMnemonic? token.text = none) : strays (token :: rest) = token :: strays rest := by
  rw [strays, ofTokens, h]
  rfl

theorem strays_command {token : Token} {opcode : Opcode} (rest : List Token)
    (h : Opcode.ofMnemonic? token.text = some opcode) :
    strays (token :: rest) = strays (rest.drop opcode.tokenCount) := by
  rw [strays, ofTokens, h]
  rfl

/-- The tokens that stand alone keep their order. -/
theorem strays_sublist (tokens : List Token) : (strays tokens).Sublist tokens := by
  refine filterMap_ofTokens_sublist (fun statement token h => ?_) tokens
  cases statement with
  | stray token =>
    cases h
    exact List.mem_cons_self
  | command opcode mnemonic operands => cases h

/-- No token that stands alone is a mnemonic. -/
theorem ne_mnemonic_of_mem_strays {tokens : List Token} {token : Token} (h : token ∈ strays tokens)
    (opcode : Opcode) : token.text ≠ opcode.mnemonic := by
  fun_induction ofTokens tokens with
  | case1 =>
    rw [strays_nil] at h
    cases h
  | case2 first rest hstray ih =>
    rw [strays_stray rest hstray] at h
    rcases List.mem_cons.mp h with rfl | h
    · exact Opcode.ofMnemonic?_eq_none_iff.mp hstray opcode
    · exact ih h
  | case3 first rest other hother ih =>
    rw [strays_command rest hother] at h
    exact ih h

end Statement

namespace Assembly

/-! ### Warnings -/

/-- As far as tokens follow the grammar, assembly warns of those that stand alone. -/
theorem Accepts.warnings {read : List Token} {entries : List Entry} (h : Accepts read entries)
    (rest : List Token) :
    (ofTokens (read ++ rest)).events.filter (·.level = .warn)
      = (Statement.strays read).map .strayToken ++
          (ofTokens rest).events.filter (·.level = .warn) := by
  induction h with
  | nil =>
    rw [Statement.strays_nil]
    rfl
  | stray htoken _ ih =>
    have hstray := Opcode.ofMnemonic?_eq_none_iff.mpr htoken
    rw [List.cons_append, ofTokens_stray _ hstray, Statement.strays_stray _ hstray, List.map_cons,
      List.cons_append, ← ih]
    rfl
  | group hgroup _ ih =>
    -- the operands belong to the command, so none of them stands alone, be it a mnemonic or not
    have hmnemonic := Opcode.ofMnemonic?_eq_some_iff.mpr hgroup.mnemonic_text
    rw [List.cons_append, List.append_assoc, hgroup.ofTokens_append,
      Statement.strays_command _ hmnemonic, List.drop_left' hgroup.length_operands, ← ih]
    rfl

/-- Where assembly stops, it warns of nothing more. -/
theorem Accepts.warnings_of_stops {read rest : List Token} {entries : List Entry}
    {stop : Option AssemblyError} (h : Accepts read entries) (hstops : Stops rest stop) :
    (ofTokens (read ++ rest)).events.filter (·.level = .warn)
      = (Statement.strays read).map .strayToken := by
  rw [h.warnings, ofTokens_of_stops hstops]
  exact List.append_nil _

/-! ### The error -/

/-- What is told of a refused mnemonic holds no line break, if its tokens hold none. -/
theorem Refuses.isUnbroken_message {opcode : Opcode} {mnemonic : Token} {later : List Token}
    {error : AssemblyError} (h : Refuses opcode mnemonic later error)
    (htokens : ∀ token ∈ mnemonic :: later, IsUnbroken token.text) : IsUnbroken error.message := by
  obtain ⟨hmnemonic, hlater⟩ := List.forall_mem_cons.mp htokens
  cases h with
  -- the message shows the mnemonic and those of the tokens behind it that were taken
  | short hshort =>
    exact SyntaxError.isUnbroken_message hmnemonic (List.forall_mem_map.mpr hlater)
  | malformed hsplit hlength hcause =>
    rw [hsplit, List.forall_mem_append] at hlater
    exact SyntaxError.isUnbroken_message hmnemonic (List.forall_mem_map.mpr hlater.1)
  | unencodable hsplit hlength hinstruction herror =>
    show IsUnbroken (_ ++ toString mnemonic.line ++ _ ++ EncodeError.message _)
    simp only [isUnbroken_append_iff]
    exact ⟨⟨⟨by decide, isUnbroken_toString _⟩, by decide⟩,
      (EncodeError.isPlain_message herror).isUnbroken⟩

/-- What is told of the error that stops a text's assembly holds no line break. -/
theorem isUnbroken_message {text : String} {error : AssemblyError}
    (h : (ofText text).error = some error) : IsUnbroken error.message := by
  obtain ⟨read, rest, hsplit, -, hstops⟩ := ofTokens_accepts (Token.ofText text)
  have htokens : ∀ token ∈ rest, IsUnbroken token.text := fun token hmem =>
    Token.isUnbroken_of_mem_ofText (hsplit ▸ List.mem_append_right read hmem)
  change (ofTokens (Token.ofText text)).error = some error at h
  rw [h] at hstops
  cases hstops with
  | refused hmnemonic hrefuses => exact hrefuses.isUnbroken_message htokens

/-- A text of a token that stands alone and a command that breaks off. -/
theorem ofText_short : ofText "x OR R1" =
    ⟨[], some (.malformed ⟨.bitwiseOr, "OR", ["R1"], 1, .unexpectedEnd⟩),
      [.strayToken ⟨"x", 1⟩]⟩ := by
  have htokens : Token.ofText "x OR R1" = [⟨"x", 1⟩, ⟨"OR", 1⟩, ⟨"R1", 1⟩] := by decide
  have hstray : Opcode.ofMnemonic? "x" = none := by decide
  have hentry : Statement.entry .bitwiseOr ⟨"OR", 1⟩ [⟨"R1", 1⟩]
      = .error (.malformed ⟨.bitwiseOr, "OR", ["R1"], 1, .unexpectedEnd⟩) := rfl
  rw [ofText, htokens, ofTokens_stray _ hstray,
    ofTokens_stop _ (Opcode.ofMnemonic?_mnemonic .bitwiseOr) hentry]

end Assembly

end Quartet
