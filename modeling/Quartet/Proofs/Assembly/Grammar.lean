import Quartet.Proofs.Assembly.Commands

namespace Quartet

/-!
# The grammar of assembly text

A token sequence follows the grammar if it is made of *groups*, each a mnemonic with its
operands, and of stray tokens between them.  Assembly reads as much of a text as follows the
grammar, and fails exactly if that is not all of it.

* `Assembly.Group` — a mnemonic with operands that can be assembled.
* `Assembly.Accepts` — the sequences that follow the grammar, with their entries.
* `Assembly.Refuses` — why no group starts at a mnemonic.
* `Assembly.Accepts.isPrefix_of_stops` — nothing longer than what was read follows the grammar.
* `Assembly.ofText_grammar` — assembly reads the longest prefix that follows the grammar.
-/

/-! ### Mnemonics -/

namespace Opcode

theorem ofMnemonic?_eq_some_iff {text : String} {opcode : Opcode} :
    ofMnemonic? text = some opcode ↔ text = opcode.mnemonic := by
  constructor
  · intro h
    exact (mnemonic_of_ofMnemonic? h).symm
  · rintro rfl
    exact ofMnemonic?_mnemonic opcode

theorem ofMnemonic?_eq_none_iff {text : String} :
    ofMnemonic? text = none ↔ ∀ opcode : Opcode, text ≠ opcode.mnemonic := by
  rw [Option.eq_none_iff_forall_ne_some]
  exact forall_congr' fun opcode => not_congr ofMnemonic?_eq_some_iff

/-- No two opcodes share a mnemonic. -/
theorem mnemonic_injective {first second : Opcode} (h : first.mnemonic = second.mnemonic) :
    first = second := by
  have hfirst := ofMnemonic?_mnemonic first
  rw [h, ofMnemonic?_mnemonic] at hfirst
  exact (Option.some.inj hfirst).symm

end Opcode

namespace Assembly

/-! ### Groups -/

/-- A mnemonic with as many tokens as its opcode asks for, whatever they are, which follow the
    opcode's form and whose instruction has a code word. -/
structure Group (opcode : Opcode) (mnemonic : Token) (operands : List Token) (entry : Entry) :
    Prop where
  mnemonic_text : mnemonic.text = opcode.mnemonic
  length_operands : operands.length = opcode.tokenCount
  instruction : Operand.instruction opcode (operands.map (·.text)) = .ok entry.instruction
  word : CodeWord.encode entry.instruction = .ok entry.word
  line : entry.line = mnemonic.line

/-- The sequences that follow the grammar, with the entries of their groups. -/
inductive Accepts : List Token → List Entry → Prop where
  | nil : Accepts [] []
  /-- A token that is no mnemonic stands alone. -/
  | stray {token : Token} {tokens : List Token} {entries : List Entry}
      (htoken : ∀ opcode : Opcode, token.text ≠ opcode.mnemonic)
      (hrest : Accepts tokens entries) : Accepts (token :: tokens) entries
  /-- A mnemonic stands with its operands. -/
  | group {opcode : Opcode} {mnemonic : Token} {operands tokens : List Token} {entry : Entry}
      {entries : List Entry} (hgroup : Group opcode mnemonic operands entry)
      (hrest : Accepts tokens entries) :
      Accepts (mnemonic :: (operands ++ tokens)) (entry :: entries)

/-- Why no group starts at a mnemonic, given the tokens after it. -/
inductive Refuses (opcode : Opcode) (mnemonic : Token) (later : List Token) :
    AssemblyError → Prop where
  /-- There are too few tokens, whatever they are. -/
  | short (hshort : later.length < opcode.tokenCount) :
      Refuses opcode mnemonic later
        (.malformed (Statement.syntaxError opcode mnemonic later .unexpectedEnd))
  /-- The tokens do not follow the opcode's form. -/
  | malformed {operands others : List Token} {cause : SyntaxError.Cause}
      (hlater : later = operands ++ others) (hlength : operands.length = opcode.tokenCount)
      (hcause : Operand.instruction opcode (operands.map (·.text)) = .error cause) :
      Refuses opcode mnemonic later
        (.malformed (Statement.syntaxError opcode mnemonic operands cause))
  /-- The instruction has no code word. -/
  | unencodable {operands others : List Token} {instruction : Instruction} {error : EncodeError}
      (hlater : later = operands ++ others) (hlength : operands.length = opcode.tokenCount)
      (hinstruction : Operand.instruction opcode (operands.map (·.text)) = .ok instruction)
      (herror : CodeWord.encode instruction = .error error) :
      Refuses opcode mnemonic later (.unencodable mnemonic.line error)

/-- Where assembly stops: at the end, or at a mnemonic that no group starts with. -/
inductive Stops : List Token → Option AssemblyError → Prop where
  | finished : Stops [] none
  | refused {opcode : Opcode} {mnemonic : Token} {later : List Token} {error : AssemblyError}
      (hmnemonic : mnemonic.text = opcode.mnemonic)
      (hrefuses : Refuses opcode mnemonic later error) : Stops (mnemonic :: later) (some error)

/-! ### What assembly reads -/

/-- A command fails for a reason why no group starts at its mnemonic. -/
theorem refuses_of_entry {opcode : Opcode} {mnemonic : Token} {later : List Token}
    {error : AssemblyError}
    (h : Statement.entry opcode mnemonic (later.take opcode.tokenCount) = .error error) :
    Refuses opcode mnemonic later error := by
  have hlater := (List.take_append_drop opcode.tokenCount later).symm
  -- the stages of a command, in their order; the last case is a command that passes all of them
  by_cases hshort : later.length < opcode.tokenCount
  · rw [List.take_of_length_le (Nat.le_of_lt hshort), Statement.entry_of_short hshort] at h
    cases h
    exact .short hshort
  have hlength : (later.take opcode.tokenCount).length = opcode.tokenCount :=
    List.length_take_of_le (Nat.not_lt.mp hshort)
  have hcount := Nat.le_of_eq hlength.symm
  cases hinstruction : Operand.instruction opcode ((later.take opcode.tokenCount).map (·.text)) with
  | error cause =>
    rw [Statement.entry_of_malformed hcount hinstruction] at h
    cases h
    exact .malformed hlater hlength hinstruction
  | ok instruction =>
    cases hword : CodeWord.encode instruction with
    | error error =>
      rw [Statement.entry_of_unencodable hcount hinstruction hword] at h
      cases h
      exact .unencodable hlater hlength hinstruction hword
    | ok word =>
      have hentry : Statement.entry opcode mnemonic (later.take opcode.tokenCount)
          = .ok ⟨instruction, word, mnemonic.line⟩ :=
        Statement.entry_eq_ok_iff.mpr ⟨hcount, hinstruction, hword, rfl⟩
      rw [h] at hentry
      cases hentry

/-- Assembly reads groups and stray tokens, and stops at the end or where no group starts. -/
theorem ofTokens_accepts (tokens : List Token) :
    ∃ read rest, tokens = read ++ rest ∧ Accepts read (ofTokens tokens).entries ∧
      Stops rest (ofTokens tokens).error := by
  induction tokens using commandwise with
  | finished => exact ⟨[], [], rfl, ofTokens_nil ▸ .nil, ofTokens_nil ▸ .finished⟩
  | stray token rest hstray ih =>
    obtain ⟨read, later, hsplit, haccepts, hstops⟩ := ih
    rw [ofTokens_stray rest hstray]
    exact ⟨token :: read, later, congrArg _ hsplit,
      .stray (Opcode.ofMnemonic?_eq_none_iff.mp hstray) haccepts, hstops⟩
  | stop token rest opcode error hopcode hentry =>
    have hmnemonic := Opcode.ofMnemonic?_eq_some_iff.mp hopcode
    rw [ofTokens_stop rest hopcode hentry]
    exact ⟨[], token :: rest, rfl, .nil, .refused hmnemonic (refuses_of_entry hentry)⟩
  | command token rest opcode entry hopcode hentry ih =>
    obtain ⟨read, later, hsplit, haccepts, hstops⟩ := ih
    obtain ⟨hcount, hinstruction, hword, hline⟩ := Statement.entry_eq_ok_iff.mp hentry
    have hmnemonic := Opcode.ofMnemonic?_eq_some_iff.mp hopcode
    have hlength : (rest.take opcode.tokenCount).length = opcode.tokenCount :=
      Nat.le_antisymm (List.length_take_le _ _) hcount
    rw [ofTokens_command rest hopcode hentry]
    refine ⟨token :: (rest.take opcode.tokenCount ++ read), later, ?_,
      .group ⟨hmnemonic, hlength, hinstruction, hword, hline⟩ haccepts, hstops⟩
    rw [List.cons_append, List.append_assoc, ← hsplit, List.take_append_drop]

/-! ### Nothing longer follows the grammar -/

/-- A group is a command that is assembled. -/
theorem Group.entry_eq_ok {opcode : Opcode} {mnemonic : Token} {operands : List Token}
    {entry : Entry} (h : Group opcode mnemonic operands entry) :
    Statement.entry opcode mnemonic operands = .ok entry :=
  Statement.entry_eq_ok_iff.mpr
    ⟨Nat.le_of_eq h.length_operands.symm, h.instruction, h.word, h.line⟩

/-- Behind a group, assembly goes on with whatever comes. -/
theorem Group.ofTokens_append {opcode : Opcode} {mnemonic : Token} {operands : List Token}
    {entry : Entry} (h : Group opcode mnemonic operands entry) (rest : List Token) :
    ofTokens (mnemonic :: (operands ++ rest))
      = { ofTokens rest with
          entries := entry :: (ofTokens rest).entries
          events := .assembled entry :: (ofTokens rest).events } := by
  have hopcode := Opcode.ofMnemonic?_eq_some_iff.mpr h.mnemonic_text
  have hentry : Statement.entry opcode mnemonic ((operands ++ rest).take opcode.tokenCount)
      = .ok entry := by
    rw [List.take_left' h.length_operands]
    exact h.entry_eq_ok
  rw [ofTokens_command _ hopcode hentry, List.drop_left' h.length_operands]

/-- The instruction of a group has the opcode of its mnemonic. -/
theorem Group.opcode_eq {opcode : Opcode} {mnemonic : Token} {operands : List Token} {entry : Entry}
    (h : Group opcode mnemonic operands entry) : entry.instruction.opcode = opcode :=
  (Operand.follows_of_instruction h.instruction).opcode_eq

/-- Groups with the same mnemonic and the same tokens after it are the same. -/
theorem Group.unique {opcode opcode' : Opcode} {mnemonic : Token}
    {operands operands' others others' : List Token} {entry entry' : Entry}
    (h : Group opcode mnemonic operands entry) (h' : Group opcode' mnemonic operands' entry')
    (hsame : operands' ++ others' = operands ++ others) :
    operands' = operands ∧ others' = others ∧ entry' = entry := by
  obtain rfl : opcode' = opcode :=
    Opcode.mnemonic_injective (h'.mnemonic_text.symm.trans h.mnemonic_text)
  obtain ⟨rfl, rfl⟩ :=
    List.append_inj hsame (h'.length_operands.trans h.length_operands.symm)
  exact ⟨rfl, rfl, Except.ok.inj (h'.entry_eq_ok.symm.trans h.entry_eq_ok)⟩

/-- No group starts at a mnemonic that is refused. -/
theorem Refuses.not_group {opcode opcode' : Opcode} {mnemonic : Token}
    {later operands others : List Token} {error : AssemblyError} {entry : Entry}
    (h : Refuses opcode mnemonic later error) (hmnemonic : mnemonic.text = opcode.mnemonic)
    (hlater : later = operands ++ others) : ¬ Group opcode' mnemonic operands entry := by
  intro hgroup
  obtain rfl : opcode' = opcode :=
    Opcode.mnemonic_injective (hgroup.mnemonic_text.symm.trans hmnemonic)
  have hlength := hgroup.length_operands
  cases h with
  | short hshort =>
    rw [hlater, List.length_append] at hshort
    omega
  | malformed hlater' hlength' hcause =>
    obtain ⟨rfl, -⟩ := List.append_inj (hlater.symm.trans hlater') (hlength.trans hlength'.symm)
    rw [hgroup.instruction] at hcause
    cases hcause
  | unencodable hlater' hlength' hinstruction herror =>
    obtain ⟨rfl, -⟩ := List.append_inj (hlater.symm.trans hlater') (hlength.trans hlength'.symm)
    rw [hgroup.instruction] at hinstruction
    cases hinstruction
    rw [hgroup.word] at herror
    cases herror

/-- Where assembly stops, nothing that follows the grammar starts but the empty sequence. -/
theorem Stops.accepts_nil {rest other more : List Token} {entries : List Entry}
    {error : Option AssemblyError} (h : Stops rest error) (hother : Accepts other entries)
    (hsame : other ++ more = rest) : other = [] ∧ entries = [] := by
  -- a stray token would be the mnemonic, and a group would start at it
  cases hother with
  | nil => exact ⟨rfl, rfl⟩
  | stray htoken hrest =>
    subst hsame
    cases h with
    | refused hmnemonic hrefuses => exact absurd hmnemonic (htoken _)
  | group hgroup hrest =>
    subst hsame
    cases h with
    | refused hmnemonic hrefuses =>
      exact absurd hgroup (hrefuses.not_group hmnemonic (List.append_assoc _ _ _))

/-- Whatever follows the grammar ends within what was read.  The induction is on what was read;
    at its end, no group starts. -/
theorem Accepts.isPrefix_of_stops {read rest other more : List Token}
    {entries entries' : List Entry} {error : Option AssemblyError} (h : Accepts read entries)
    (hstops : Stops rest error) (hother : Accepts other entries')
    (hsame : other ++ more = read ++ rest) : other <+: read ∧ entries' <+: entries := by
  induction h generalizing other entries' with
  | nil =>
    obtain ⟨rfl, rfl⟩ := hstops.accepts_nil hother hsame
    exact ⟨List.nil_prefix, List.nil_prefix⟩
  | stray htoken _ ih =>
    cases hother with
    | nil => exact ⟨List.nil_prefix, List.nil_prefix⟩
    | stray htoken' hother' =>
      obtain ⟨rfl, htail⟩ := List.cons.inj hsame
      obtain ⟨htokens, hentries⟩ := ih hother' htail
      exact ⟨List.cons_prefix_cons.mpr ⟨rfl, htokens⟩, hentries⟩
    | group hgroup' hother' =>
      obtain ⟨rfl, -⟩ := List.cons.inj hsame
      exact absurd hgroup'.mnemonic_text (htoken _)
  | group hgroup _ ih =>
    cases hother with
    | nil => exact ⟨List.nil_prefix, List.nil_prefix⟩
    | stray htoken' hother' =>
      obtain ⟨rfl, -⟩ := List.cons.inj hsame
      exact absurd hgroup.mnemonic_text (htoken' _)
    | group hgroup' hother' =>
      -- two groups with one mnemonic are the same, and the induction goes on behind them
      rw [List.cons_append, List.cons_append, List.append_assoc, List.append_assoc] at hsame
      obtain ⟨rfl, htail⟩ := List.cons.inj hsame
      obtain ⟨rfl, hrest, rfl⟩ := hgroup.unique hgroup' htail
      obtain ⟨htokens, hentries⟩ := ih hother' hrest
      exact ⟨List.cons_prefix_cons.mpr ⟨rfl, (List.prefix_append_right_inj _).mpr htokens⟩,
        List.cons_prefix_cons.mpr ⟨rfl, hentries⟩⟩

/-- A sequence that follows the grammar has one list of entries. -/
theorem Accepts.unique {tokens : List Token} {entries entries' : List Entry}
    (h : Accepts tokens entries) (h' : Accepts tokens entries') : entries' = entries := by
  have hle := (h.isPrefix_of_stops .finished h' rfl).2
  have hge := (h'.isPrefix_of_stops .finished h rfl).2
  exact hle.eq_of_length_le hge.length_le

/-! ### Why assembly stops -/

/-- A refused mnemonic is a command that fails. -/
theorem Refuses.entry_eq_error {opcode : Opcode} {mnemonic : Token} {later : List Token}
    {error : AssemblyError} (h : Refuses opcode mnemonic later error) :
    Statement.entry opcode mnemonic (later.take opcode.tokenCount) = .error error := by
  cases h with
  | short hshort =>
    rw [List.take_of_length_le (Nat.le_of_lt hshort)]
    exact Statement.entry_of_short hshort
  | malformed hlater hlength hcause =>
    rw [hlater, List.take_left' hlength]
    exact Statement.entry_of_malformed (Nat.le_of_eq hlength.symm) hcause
  | unencodable hlater hlength hinstruction herror =>
    rw [hlater, List.take_left' hlength]
    exact Statement.entry_of_unencodable (Nat.le_of_eq hlength.symm) hinstruction herror

/-- Where assembly stops, it has assembled and told nothing. -/
theorem ofTokens_of_stops {rest : List Token} {stop : Option AssemblyError} (h : Stops rest stop) :
    ofTokens rest = ⟨[], stop, []⟩ := by
  cases h with
  | finished => exact ofTokens_nil
  | refused hmnemonic hrefuses =>
    exact ofTokens_stop _ (Opcode.ofMnemonic?_eq_some_iff.mpr hmnemonic) hrefuses.entry_eq_error

/-- The end of the text is reported exactly if there are too few tokens. -/
theorem Refuses.unexpectedEnd_iff {opcode : Opcode} {mnemonic : Token} {later : List Token}
    {error : AssemblyError} (h : Refuses opcode mnemonic later error) :
    (∃ failure : SyntaxError, error = .malformed failure ∧ failure.cause = .unexpectedEnd) ↔
      later.length < opcode.tokenCount := by
  cases h with
  | short hshort => exact iff_of_true ⟨_, rfl, rfl⟩ hshort
  | malformed hlater hlength hcause =>
    have henough : ¬ later.length < opcode.tokenCount := by
      rw [hlater, List.length_append]
      omega
    refine iff_of_false ?_ henough
    rintro ⟨failure, hfailure, hend⟩
    cases hfailure
    obtain rfl := hend
    exact Operand.instruction_ne_unexpectedEnd ((List.length_map _).trans hlength) hcause
  | unencodable hlater hlength hinstruction herror =>
    have henough : ¬ later.length < opcode.tokenCount := by
      rw [hlater, List.length_append]
      omega
    refine iff_of_false ?_ henough
    rintro ⟨failure, hfailure, -⟩
    cases hfailure

theorem Stops.error_eq_none_iff {rest : List Token} {stop : Option AssemblyError}
    (h : Stops rest stop) : stop = none ↔ rest = [] := by
  cases h <;> simp

/-- The error is that of the mnemonic where assembly stops. -/
theorem Stops.error_eq_some_iff {rest : List Token} {stop : Option AssemblyError}
    (h : Stops rest stop) (error : AssemblyError) :
    stop = some error ↔ ∃ opcode mnemonic later, rest = mnemonic :: later ∧
      mnemonic.text = opcode.mnemonic ∧ Refuses opcode mnemonic later error := by
  constructor
  · rintro rfl
    cases h with
    | refused hmnemonic hrefuses => exact ⟨_, _, _, rfl, hmnemonic, hrefuses⟩
  · rintro ⟨opcode, mnemonic, later, rfl, hmnemonic, hrefuses⟩
    cases h with
    | refused hmnemonic' hrefuses' =>
      obtain rfl := Opcode.mnemonic_injective (hmnemonic'.symm.trans hmnemonic)
      have hsame := hrefuses'.entry_eq_error.symm.trans hrefuses.entry_eq_error
      rw [Except.error.inj hsame]

/-! ### Whole texts -/

/-- Whether a sequence is the longest beginning of a sequence that follows the grammar. -/
def IsLongest (tokens read : List Token) : Prop :=
  read <+: tokens ∧ (∃ entries, Accepts read entries) ∧
    ∀ other entries, other <+: tokens → Accepts other entries → other.length ≤ read.length

/-- Of a text, assembly reads the longest beginning that follows the grammar, and assembles the
    groups in it.  There is an error exactly if this is not the whole text; then a mnemonic comes
    next that no group starts with, and the error is the one for which it is refused. -/
theorem ofText_grammar (text : String) :
    ∃ read, (∀ other, IsLongest (Token.ofText text) other ↔ other = read) ∧
      (∀ entries, Accepts read entries ↔ entries = (ofText text).entries) ∧
      ((ofText text).error = none ↔ read = Token.ofText text) ∧
      ∀ error, (ofText text).error = some error ↔ ∃ opcode mnemonic later,
        Token.ofText text = read ++ mnemonic :: later ∧ mnemonic.text = opcode.mnemonic ∧
          (¬ ∃ operands others entry, later = operands ++ others ∧
            Group opcode mnemonic operands entry) ∧
          ((∃ failure : SyntaxError, error = .malformed failure ∧
            failure.cause = .unexpectedEnd) ↔ later.length < opcode.tokenCount) ∧
          Refuses opcode mnemonic later error := by
  obtain ⟨read, rest, hsplit, haccepts, hstops⟩ := ofTokens_accepts (Token.ofText text)
  -- no beginning that follows the grammar ends behind what was read
  have hlongest : ∀ other entries, other <+: Token.ofText text → Accepts other entries →
      other <+: read := by
    rintro other entries ⟨more, hmore⟩ hother
    exact (haccepts.isPrefix_of_stops hstops hother (hmore.trans hsplit)).1
  refine ⟨read, ?_, ?_, ?_, ?_⟩
  · intro other
    constructor
    · rintro ⟨hstart, ⟨entries, hother⟩, hmost⟩
      exact (hlongest other entries hstart hother).eq_of_length_le
        (hmost read _ ⟨rest, hsplit.symm⟩ haccepts)
    · rintro rfl
      exact ⟨⟨rest, hsplit.symm⟩, ⟨_, haccepts⟩, fun other entries hstart hother =>
        (hlongest other entries hstart hother).length_le⟩
  · intro entries
    constructor
    · exact haccepts.unique
    · rintro rfl
      exact haccepts
  · rw [hsplit]
    exact hstops.error_eq_none_iff.trans (by simp)
  · intro error
    rw [hsplit]
    refine (hstops.error_eq_some_iff error).trans ?_
    constructor
    · rintro ⟨opcode, mnemonic, later, rfl, hmnemonic, hrefuses⟩
      refine ⟨opcode, mnemonic, later, rfl, hmnemonic, ?_, hrefuses.unexpectedEnd_iff, hrefuses⟩
      rintro ⟨operands, others, entry, hlater, hgroup⟩
      exact hrefuses.not_group hmnemonic hlater hgroup
    · rintro ⟨opcode, mnemonic, later, hrest, hmnemonic, -, -, hrefuses⟩
      exact ⟨opcode, mnemonic, later, List.append_cancel_left hrest, hmnemonic, hrefuses⟩

end Assembly

end Quartet
