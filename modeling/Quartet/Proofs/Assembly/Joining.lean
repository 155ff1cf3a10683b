import Quartet.Proofs.Assembly.Numbering

namespace Quartet

/-!
# One text after another

Assembly goes from group to group and never looks further than the group it is at.  So a text can
be continued on a new line: what was assembled stays, and if assembly has come to the end, it goes
on with the new text as if that stood by itself, but for the lines.  Only a command at the end
that has too few tokens takes the missing ones from the text behind it.

* `Assembly.below` — the assembly of a text that begins further down.
* `Assembly.andThen` — an assembly that has come to the end, and what comes after it.
* `Assembly.ofTokens_below` — only the lines depend on where a text begins.
* `Assembly.exists_read` — what is read of a token sequence, and what more tokens change.
* `Assembly.exists_before` — the text before the mnemonic where assembly stops.
* `Assembly.ofText_append` — two texts put together.
-/

namespace Assembly

/-! ### Further down -/

/-- The assembly of a text that begins some lines further down. -/
def below (lines : Nat) (assembly : Assembly) : Assembly := assembly.renumber (lines + ·)

/-- An assembly that has come to the end of its text, and what is assembled after it. -/
def andThen (first second : Assembly) : Assembly where
  entries := first.entries ++ second.entries
  error := second.error
  events := first.events ++ second.events

/-- Of where a text begins, nothing but the lines depends. -/
theorem ofTokens_below (lines : Nat) (tokens : List Token) :
    ofTokens (tokens.map (Token.below lines)) = (ofTokens tokens).below lines :=
  ofTokens_renumber (lines + ·) tokens

/-! ### What was read stays -/

/-- Behind what follows the grammar, assembly begins anew.  The induction is on groups and stray
    tokens; none of them looks behind its end. -/
theorem Accepts.ofTokens_append {read : List Token} {entries : List Entry}
    (h : Accepts read entries) (rest : List Token) :
    ofTokens (read ++ rest) = (ofTokens read).andThen (ofTokens rest) := by
  induction h with
  | nil =>
    rw [ofTokens_nil]
    rfl
  | stray htoken _ ih =>
    have hstray := Opcode.ofMnemonic?_eq_none_iff.mpr htoken
    rw [List.cons_append, ofTokens_stray _ hstray, ofTokens_stray _ hstray, ih]
    rfl
  | group hgroup _ ih =>
    rw [List.cons_append, List.append_assoc, hgroup.ofTokens_append, hgroup.ofTokens_append, ih]
    rfl

/-- What follows the grammar is assembled to its end. -/
theorem Accepts.error_eq_none {read : List Token} {entries : List Entry}
    (h : Accepts read entries) : (ofTokens read).error = none := by
  obtain ⟨other, rest, hsplit, hother, hstops⟩ := ofTokens_accepts read
  have hread : read <+: other :=
    (hother.isPrefix_of_stops hstops h ((List.append_nil read).trans hsplit)).1
  have hrest : rest = [] := by
    have hlength := hread.length_le
    rw [hsplit, List.length_append] at hlength
    exact List.length_eq_zero_iff.mp (by omega)
  exact hstops.error_eq_none_iff.mpr hrest

/-- A mnemonic is refused for the same reason whatever comes later, if there are enough tokens. -/
theorem Refuses.append {opcode : Opcode} {mnemonic : Token} {later : List Token}
    {error : AssemblyError} (h : Refuses opcode mnemonic later error)
    (henough : opcode.tokenCount ≤ later.length) (more : List Token) :
    Refuses opcode mnemonic (later ++ more) error := by
  cases h with
  | short hshort => exact absurd hshort (Nat.not_lt.mpr henough)
  | malformed hlater hlength hcause =>
    exact .malformed (by rw [hlater, List.append_assoc]) hlength hcause
  | unencodable hlater hlength hinstruction herror =>
    exact .unencodable (by rw [hlater, List.append_assoc]) hlength hinstruction herror

/-- What is read of a token sequence, and where assembly stops: whatever comes later, what was
    read stays, and assembly goes on from there. -/
theorem exists_read (tokens : List Token) :
    ∃ read rest, tokens = read ++ rest ∧ Stops rest (ofTokens tokens).error ∧
      ofTokens read = { ofTokens tokens with error := none } ∧
      ∀ more, ofTokens (tokens ++ more) = (ofTokens read).andThen (ofTokens (rest ++ more)) := by
  obtain ⟨read, rest, hsplit, haccepts, hstops⟩ := ofTokens_accepts tokens
  refine ⟨read, rest, hsplit, hstops, ?_, ?_⟩
  · have hjoined := haccepts.ofTokens_append rest
    rw [← hsplit, ofTokens_of_stops hstops] at hjoined
    have herror := haccepts.error_eq_none
    rw [hjoined]
    simp [andThen, ← herror]
  · intro more
    rw [hsplit, List.append_assoc]
    exact haccepts.ofTokens_append (rest ++ more)

section

variable {tokens : List Token}

/-- After tokens that are assembled to their end, assembly goes on with what comes later. -/
theorem ofTokens_append_of_complete (h : (ofTokens tokens).error = none) (more : List Token) :
    ofTokens (tokens ++ more) = (ofTokens tokens).andThen (ofTokens more) := by
  obtain ⟨read, rest, -, hstops, hread, hmore⟩ := exists_read tokens
  obtain rfl := hstops.error_eq_none_iff.mp h
  rw [hmore, hread]
  rfl

/-- After an error that no lack of tokens is the reason of, nothing that comes later matters. -/
theorem ofTokens_append_of_stopped {error : AssemblyError}
    (h : (ofTokens tokens).error = some error)
    (hcause : ∀ failure : SyntaxError, error = .malformed failure →
      failure.cause ≠ .unexpectedEnd) (more : List Token) :
    ofTokens (tokens ++ more) = ofTokens tokens := by
  obtain ⟨read, rest, -, hstops, hread, hmore⟩ := exists_read tokens
  obtain ⟨opcode, mnemonic, later, rfl, hmnemonic, hrefuses⟩ :=
    (hstops.error_eq_some_iff error).mp h
  have henough : opcode.tokenCount ≤ later.length := by
    rw [← Nat.not_lt, ← hrefuses.unexpectedEnd_iff]
    rintro ⟨failure, hfailure, hend⟩
    exact hcause failure hfailure hend
  have hlater : ofTokens (mnemonic :: later ++ more) = ⟨[], some error, []⟩ :=
    ofTokens_of_stops (.refused hmnemonic (hrefuses.append henough more))
  rw [hmore, hread, hlater]
  simp [andThen, ← h]

/-- What is assembled stays, whatever comes later. -/
theorem entries_isPrefix_append (tokens more : List Token) :
    (ofTokens tokens).entries <+: (ofTokens (tokens ++ more)).entries := by
  obtain ⟨read, rest, -, -, hread, hmore⟩ := exists_read tokens
  rw [hmore, hread]
  exact List.prefix_append _ _

end

/-! ### Texts -/

/-- Where assembly of a text stops, the text before the mnemonic is assembled to its end, and to
    the same. -/
theorem exists_before {text : String} {error : AssemblyError}
    (h : (ofText text).error = some error) :
    ∃ before opcode mnemonic later after, text = before ++ mnemonic.text ++ after ∧
      Token.ofText text = Token.ofText before ++ mnemonic :: later ∧
      mnemonic.text = opcode.mnemonic ∧ Refuses opcode mnemonic later error ∧
      ofText before = { ofText text with error := none } := by
  obtain ⟨read, rest, hsplit, hstops, hread, -⟩ := exists_read (Token.ofText text)
  obtain ⟨opcode, mnemonic, later, rfl, hmnemonic, hrefuses⟩ :=
    (hstops.error_eq_some_iff error).mp h
  obtain ⟨front, back, htext, -, -, hfront⟩ := Token.exists_before hsplit
  have hbefore : Token.ofText (String.ofList front) = read := by
    rw [Token.ofText_eq, String.toList_ofList]
    exact hfront
  refine ⟨String.ofList front, opcode, mnemonic, later, String.ofList back, ?_, ?_, hmnemonic,
    hrefuses, ?_⟩
  · rw [← String.toList_inj]
    simpa using htext
  · rw [hbefore]
    exact hsplit
  · rw [ofText, hbefore]
    exact hread

/-- A text that is continued on a new line.  If its assembly comes to its end, assembly goes on
    with the new text as if that stood by itself further down.  If its assembly stops, and not
    because tokens are missing, the new text does not matter.  What was assembled always stays; and
    where assembly stops, the text before the mnemonic is assembled to its end, and to the same. -/
theorem ofText_append (first second : String) :
    let lines := 1 + first.toList.count '\n'
    let both := ofText (first ++ "\n" ++ second)
    ((ofText first).error = none → both = (ofText first).andThen ((ofText second).below lines)) ∧
      (∀ error, (ofText first).error = some error →
        (∀ failure : SyntaxError, error = .malformed failure → failure.cause ≠ .unexpectedEnd) →
        both = ofText first) ∧
      (ofText first).entries <+: both.entries ∧
      ∀ error, (ofText first).error = some error →
        ∃ before opcode mnemonic later after, first = before ++ mnemonic.text ++ after ∧
          Token.ofText first = Token.ofText before ++ mnemonic :: later ∧
          mnemonic.text = opcode.mnemonic ∧ Refuses opcode mnemonic later error ∧
          ofText before = { ofText first with error := none } := by
  intro lines both
  have hboth : both
      = ofTokens (Token.ofText first ++ (Token.ofText second).map (Token.below lines)) :=
    congrArg ofTokens (Token.ofText_append_newline first second)
  rw [hboth]
  refine ⟨?_, ?_, entries_isPrefix_append _ _, fun error => exists_before⟩
  · intro hcomplete
    rw [ofTokens_append_of_complete hcomplete, ofTokens_below]
    rfl
  · intro error herror hcause
    exact ofTokens_append_of_stopped herror hcause _

/-- A command that is assembled and one without its comma: in this order, assembly stops in the
    second line; in the other order, at once. -/
theorem ofText_append_missingComma :
    let load := "LOAD_CONSTANT R4, #187"
    let read := "MEMORY_READ R5 [R4]"
    let entry : Entry := ⟨.loadConstant 4 187, 0x5DCC3, 1⟩
    let failure line : AssemblyError :=
      .malformed ⟨.memoryRead, "MEMORY_READ", ["R5", "[R4]"], line, .missingComma⟩
    ofText load = ⟨[entry], none, [.assembled entry]⟩ ∧
      ofText read = ⟨[], some (failure 1), []⟩ ∧
      ofText (load ++ "\n" ++ read) = ⟨[entry], some (failure 2), [.assembled entry]⟩ ∧
      ofText (read ++ "\n" ++ load) = ofText read ∧
      ∃ before, ofText before = ⟨[], none, []⟩ := by
  intro load read entry failure
  have hload : ofText load = ⟨[entry], none, [.assembled entry]⟩ := by
    have htokens : Token.ofText load = [⟨"LOAD_CONSTANT", 1⟩, ⟨"R4,", 1⟩, ⟨"#187", 1⟩] := by decide
    have hentry : Statement.entry .loadConstant ⟨"LOAD_CONSTANT", 1⟩ [⟨"R4,", 1⟩, ⟨"#187", 1⟩]
        = .ok entry := by rfl
    have hend : ofTokens ([⟨"R4,", 1⟩, ⟨"#187", 1⟩].drop 2) = ⟨[], none, []⟩ := ofTokens_nil
    rw [ofText, htokens, ofTokens_command _ (Opcode.ofMnemonic?_mnemonic .loadConstant) hentry,
      Opcode.tokenCount, hend]
  have hread : ofText read = ⟨[], some (failure 1), []⟩ := by
    have htokens : Token.ofText read = [⟨"MEMORY_READ", 1⟩, ⟨"R5", 1⟩, ⟨"[R4]", 1⟩] := by decide
    have hentry : Statement.entry .memoryRead ⟨"MEMORY_READ", 1⟩ [⟨"R5", 1⟩, ⟨"[R4]", 1⟩]
        = .error (failure 1) := by rfl
    rw [ofText, htokens, ofTokens_stop _ (Opcode.ofMnemonic?_mnemonic .memoryRead) hentry]
  have hline : load.toList.count '\n' = 0 := by decide
  obtain ⟨hcomplete, -, -, -⟩ := ofText_append load read
  obtain ⟨-, hstopped, -, hbefore⟩ := ofText_append read load
  rw [hload, hread, hline] at hcomplete
  rw [hread] at hstopped hbefore ⊢
  refine ⟨hload, rfl, hcomplete rfl, hstopped _ rfl ?_, ?_⟩
  · intro other hother
    cases hother
    decide
  · obtain ⟨before, -, -, -, -, -, -, -, -, hsame⟩ := hbefore _ rfl
    exact ⟨before, hsame⟩

end Assembly

end Quartet
