import Quartet.Proofs.Assembly.Joining
import Quartet.Proofs.Assembly.Strays
import Quartet.Proofs.Run.Account
import Mathlib.Data.List.Forall2

namespace Quartet

/-!
# Replaying what was told

What assembly tells can be held against the tokens.  A warning stands for the token that it names,
and an entry for its mnemonic and as many tokens behind it as its opcode asks for.  Taken off in
the order in which they were told, nothing is left of a text that was assembled to its end; of any
other text, what is left begins with the mnemonic where assembly stopped.

* `Event.StandsFor` — the tokens that an event stands for.
* `Event.consume?`, `Event.replay?` — what is left behind the tokens of one event and of several.
* `Event.replay?_eq_some_iff` — a replay takes off a part for each event.
* `Assembly.Accepts.exists_parts` — what was read falls into the parts of what was told.
* `Assembly.ofText_accounts` — what assembly tells accounts for the tokens of a text.
-/

namespace Event

/-! ### One event -/

/-- The tokens that an event stands for.  Of a mnemonic with its operands, the event tells the text
    and the line of the mnemonic, and only the number of the operands. -/
inductive StandsFor : Event → List Token → Prop where
  /-- A warning stands for the token that it names, which is no mnemonic. -/
  | stray {token : Token} (htoken : ∀ opcode : Opcode, token.text ≠ opcode.mnemonic) :
      StandsFor (.strayToken token) [token]
  /-- An entry stands for a mnemonic on its line and for the operands of its opcode. -/
  | assembled {entry : Entry} {mnemonic : Token} {operands : List Token}
      (hmnemonic : mnemonic.text = entry.instruction.opcode.mnemonic)
      (hline : mnemonic.line = entry.line)
      (hlength : operands.length = entry.instruction.opcode.tokenCount) :
      StandsFor (.assembled entry) (mnemonic :: operands)

/-- The tokens behind those that an event stands for, if the first tokens are such. -/
def consume? : Event → List Token → Option (List Token)
  | strayToken stray, token :: rest =>
    if token = stray ∧ Opcode.ofMnemonic? token.text = none then some rest else none
  | assembled entry, mnemonic :: rest =>
    let opcode := entry.instruction.opcode
    if mnemonic.text = opcode.mnemonic ∧ mnemonic.line = entry.line ∧
        opcode.tokenCount ≤ rest.length then
      some (rest.drop opcode.tokenCount)
    else none
  | _, _ => none

/-- An event takes off the tokens that it stands for, and no others. -/
theorem consume?_eq_some_iff {event : Event} {tokens rest : List Token} :
    event.consume? tokens = some rest ↔ ∃ part, event.StandsFor part ∧ tokens = part ++ rest := by
  constructor
  · intro h
    -- two kinds of events take off tokens, and neither does without a first token
    unfold consume? at h
    split at h
    · obtain ⟨⟨rfl, hstray⟩, hrest⟩ := Option.ite_none_right_eq_some.mp h
      obtain rfl := Option.some.inj hrest
      exact ⟨[_], .stray (Opcode.ofMnemonic?_eq_none_iff.mp hstray), rfl⟩
    · obtain ⟨⟨hmnemonic, hline, hcount⟩, hrest⟩ := Option.ite_none_right_eq_some.mp h
      obtain rfl := Option.some.inj hrest
      refine ⟨_ :: _, .assembled hmnemonic hline (List.length_take_of_le hcount), ?_⟩
      rw [List.cons_append, List.take_append_drop]
    · cases h
  · rintro ⟨part, hpart, rfl⟩
    cases hpart with
    | stray htoken => exact if_pos ⟨rfl, Opcode.ofMnemonic?_eq_none_iff.mpr htoken⟩
    | assembled hmnemonic hline hlength =>
      have hcount := hlength.symm.le.trans (List.prefix_append _ rest).length_le
      exact (if_pos ⟨hmnemonic, hline, hcount⟩).trans (congrArg some (List.drop_left' hlength))

/-! ### Several events -/

/-- The tokens behind those that events stand for, one event after the other. -/
def replay? : List Event → List Token → Option (List Token)
  | [], tokens => some tokens
  | event :: later, tokens => (event.consume? tokens).bind (replay? later)

/-- A replay takes off a part for each event, without gaps, and nothing else.  The induction is on
    the events; each of them begins where the one before it ends. -/
theorem replay?_eq_some_iff {events : List Event} {tokens rest : List Token} :
    replay? events tokens = some rest ↔
      ∃ parts, List.Forall₂ StandsFor events parts ∧ tokens = parts.flatten ++ rest := by
  induction events generalizing tokens with
  | nil => simp [replay?, List.forall₂_nil_left_iff, eq_comm]
  | cons event later ih =>
    rw [replay?, Option.bind_eq_some_iff]
    constructor
    · rintro ⟨middle, hfirst, hlater⟩
      obtain ⟨part, hpart, rfl⟩ := consume?_eq_some_iff.mp hfirst
      obtain ⟨parts, hparts, rfl⟩ := ih.mp hlater
      exact ⟨part :: parts, .cons hpart hparts, (List.append_assoc _ _ _).symm⟩
    · rintro ⟨parts, hall, rfl⟩
      cases hall with
      | @cons _ part _ parts hpart hparts =>
        exact ⟨parts.flatten ++ rest,
          consume?_eq_some_iff.mpr ⟨part, hpart, List.append_assoc _ _ _⟩,
          ih.mpr ⟨parts, hparts, rfl⟩⟩

/-- A warning takes off its token, but not if that were a mnemonic. -/
example :
    let short : List Token := [⟨"OR", 1⟩, ⟨"R1", 1⟩]
    replay? [.strayToken ⟨"x", 1⟩] (⟨"x", 1⟩ :: short) = some short ∧
      replay? [.strayToken ⟨"x", 1⟩, .strayToken ⟨"OR", 1⟩] (⟨"x", 1⟩ :: short) = none := by
  decide

end Event

namespace Assembly

/-! ### What was read -/

/-- What follows the grammar falls into the parts that are told. -/
theorem Accepts.exists_parts {read : List Token} {entries : List Entry}
    (h : Accepts read entries) :
    ∃ parts, List.Forall₂ Event.StandsFor (ofTokens read).events parts ∧ read = parts.flatten := by
  induction h with
  | nil =>
    rw [ofTokens_nil]
    exact ⟨[], .nil, rfl⟩
  | @stray token tokens entries htoken hrest ih =>
    obtain ⟨parts, hparts, rfl⟩ := ih
    rw [ofTokens_stray _ (Opcode.ofMnemonic?_eq_none_iff.mpr htoken)]
    exact ⟨[token] :: parts, .cons (.stray htoken) hparts, rfl⟩
  | @group opcode mnemonic operands tokens entry entries hgroup hrest ih =>
    obtain ⟨parts, hparts, rfl⟩ := ih
    obtain rfl := hgroup.opcode_eq
    have hpart : (Event.assembled entry).StandsFor (mnemonic :: operands) :=
      .assembled hgroup.mnemonic_text hgroup.line.symm hgroup.length_operands
    rw [hgroup.ofTokens_append]
    exact ⟨(mnemonic :: operands) :: parts, .cons hpart hparts, rfl⟩

/-- What is told besides the warnings are the entries, in order. -/
theorem filter_debug_events (tokens : List Token) :
    (ofTokens tokens).events.filter (·.level = .debug)
      = (ofTokens tokens).entries.map .assembled := by
  induction tokens using commandwise with
  | finished =>
    rw [ofTokens_nil]
    rfl
  | stray token rest hstray ih =>
    rw [ofTokens_stray rest hstray]
    exact ih
  | stop token rest opcode error hopcode hentry =>
    rw [ofTokens_stop rest hopcode hentry]
    rfl
  | command token rest opcode entry hopcode hentry ih =>
    rw [ofTokens_command rest hopcode hentry]
    exact congrArg (.assembled entry :: ·) ih

/-! ### Whole texts -/

/-- How what an assembly tells accounts for a token sequence: the sequence falls into a part for
    each event, in order, and a rest of which nothing is told. -/
structure Accounts (assembly : Assembly) (tokens : List Token) (parts : List (List Token))
    (rest : List Token) : Prop where
  /-- Each token belongs to one part or to the rest. -/
  split : tokens = parts.flatten ++ rest
  /-- Each event stands for its part. -/
  standsFor : List.Forall₂ Event.StandsFor assembly.events parts
  /-- Events can be replayed, and the rest is left. -/
  replay : Event.replay? assembly.events tokens = some rest
  /-- The warnings name the tokens that stand alone. -/
  warnings : assembly.events.filter (·.level = .warn)
    = (Statement.strays parts.flatten).map .strayToken
  /-- A warning is shown with the line and the text of its token. -/
  warningsShown : (assembly.events.filter (·.level = .warn)).map Event.shown
    = (Statement.strays parts.flatten).map fun token =>
        ("skipping token that is not a mnemonic",
          [("line", .number token.line), ("token", .quoted token.text)])
  /-- The other events are the entries. -/
  instructions : assembly.events.filter (·.level = .debug) = assembly.entries.map .assembled
  /-- An entry is shown with its instruction, its line and its word. -/
  instructionsShown : (assembly.events.filter (·.level = .debug)).map Event.shown
    = assembly.entries.map fun entry =>
        (entry.instruction.text, [("line", .number entry.line), ("word", .number entry.word.toNat)])
  /-- The parts are the whole sequence exactly if assembly came to its end. -/
  complete : assembly.isComplete ↔ parts.flatten = tokens
  /-- Where it stopped instead, the rest begins with the mnemonic that is refused. -/
  stopped : ∀ error, assembly.error = some error ↔ ∃ opcode mnemonic later,
    rest = mnemonic :: later ∧ mnemonic.text = opcode.mnemonic ∧
      Refuses opcode mnemonic later error

/-- What assembly tells accounts for the tokens of a text up to where it stops, each once. -/
theorem ofText_accounts (text : String) :
    ∃ parts rest, (ofText text).Accounts (Token.ofText text) parts rest := by
  obtain ⟨read, rest, hsplit, haccepts, hstops⟩ := ofTokens_accepts (Token.ofText text)
  obtain ⟨parts, hparts, rfl⟩ := haccepts.exists_parts
  -- of the rest nothing is told, so the events are those of what was read
  have hevents : (ofText text).events = (ofTokens parts.flatten).events := by
    rw [ofText, hsplit, haccepts.ofTokens_append, ofTokens_of_stops hstops]
    exact List.append_nil _
  have hwarnings : (ofText text).events.filter (·.level = .warn)
      = (Statement.strays parts.flatten).map .strayToken := by
    rw [ofText, hsplit]
    exact haccepts.warnings_of_stops hstops
  have hinstructions : (ofText text).events.filter (·.level = .debug)
      = (ofText text).entries.map .assembled := filter_debug_events _
  rw [← hevents] at hparts
  refine ⟨parts, rest, hsplit, hparts, Event.replay?_eq_some_iff.mpr ⟨parts, hparts, hsplit⟩,
    hwarnings, ?_, hinstructions, ?_, ?_, hstops.error_eq_some_iff⟩
  · rw [hwarnings, List.map_map]
    rfl
  · rw [hinstructions, List.map_map]
    rfl
  · rw [isComplete, Option.isNone_iff_eq_none, hsplit, List.self_eq_append_right]
    exact hstops.error_eq_none_iff

end Assembly

end Quartet
