import Quartet.Proofs.Assembly.Grammar
import Quartet.Proofs.Text.Lines

namespace Quartet

/-!
# Numbers of lines

Assembly reads the texts of tokens.  Their lines it only hands on, to entries, to errors and to
what it tells.  So the lines may be given other numbers before assembly or after it.

* `Entry.renumber`, `AssemblyError.renumber`, `Event.renumber`, `Assembly.renumber` — the same
  with other numbers for the lines, as `Token.renumber` for tokens.
* `Assembly.ofTokens_renumber` — assembly of tokens whose lines have other numbers.
* `Assembly.ofTokens_renumber_of_texts` — tokens with the same texts, wherever they stand.
-/

variable (number : Nat → Nat)

/-- An entry whose line has another number. -/
def Entry.renumber (entry : Entry) : Entry := { entry with line := number entry.line }

/-- The line of an error. -/
def AssemblyError.line : AssemblyError → Nat
  | malformed error => error.line
  | unencodable line _ => line

/-- An error whose line has another number. -/
def AssemblyError.renumber : AssemblyError → AssemblyError
  | malformed error => malformed { error with line := number error.line }
  | unencodable line error => unencodable (number line) error

/-- What is told about lines with other numbers.  Only what is told of an assembly names lines. -/
def Event.renumber : Event → Event
  | strayToken token => strayToken (token.renumber number)
  | assembled entry => assembled (entry.renumber number)
  | event => event

/-- A command on a line with another number is assembled to the same, or fails for the same
    reason. -/
theorem Statement.entry_renumber (opcode : Opcode) (mnemonic : Token) (operands : List Token) :
    entry opcode (mnemonic.renumber number) (operands.map (Token.renumber number))
      = ((entry opcode mnemonic operands).map (Entry.renumber number)).mapError
          (AssemblyError.renumber number) := by
  have htexts : (operands.map (Token.renumber number)).map (·.text) = operands.map (·.text) :=
    List.map_map
  unfold entry
  rw [htexts, List.length_map]
  split
  · rfl
  · dsimp only
    split
    · rfl
    · split
      · rfl
      · rfl

namespace Assembly

/-- An assembly whose lines have other numbers. -/
def renumber (assembly : Assembly) : Assembly where
  entries := assembly.entries.map (Entry.renumber number)
  error := assembly.error.map (AssemblyError.renumber number)
  events := assembly.events.map (Event.renumber number)

/-- Tokens whose lines have other numbers are assembled to the same, but for these numbers. -/
theorem ofTokens_renumber (tokens : List Token) :
    ofTokens (tokens.map (Token.renumber number)) = (ofTokens tokens).renumber number := by
  induction tokens using commandwise with
  | finished =>
    rw [List.map_nil, ofTokens_nil]
    rfl
  | stray token rest hstray ih =>
    have hsame : Opcode.ofMnemonic? (token.renumber number).text = none := hstray
    rw [List.map_cons, ofTokens_stray _ hstray, ofTokens_stray _ hsame, ih]
    rfl
  -- the mnemonic is the same whatever its line, and its command comes to the same
  | stop token rest opcode error hopcode hentry =>
    have hsame : Opcode.ofMnemonic? (token.renumber number).text = some opcode := hopcode
    have hrenumbered := Statement.entry_renumber number opcode token (rest.take opcode.tokenCount)
    rw [List.map_take, hentry] at hrenumbered
    rw [List.map_cons, ofTokens_stop _ hopcode hentry, ofTokens_stop _ hsame hrenumbered]
    rfl
  | command token rest opcode entry hopcode hentry ih =>
    have hsame : Opcode.ofMnemonic? (token.renumber number).text = some opcode := hopcode
    have hrenumbered := Statement.entry_renumber number opcode token (rest.take opcode.tokenCount)
    rw [List.map_take, hentry] at hrenumbered
    rw [List.map_cons, ofTokens_command _ hopcode hentry, ofTokens_command _ hsame hrenumbered,
      ← List.map_drop, ih]
    rfl

/-- Tokens with the same texts are assembled to the same, but for the lines. -/
theorem ofTokens_renumber_of_texts {tokens others : List Token}
    (h : others.map (·.text) = tokens.map (·.text)) :
    (ofTokens others).renumber (fun _ => 0) = (ofTokens tokens).renumber (fun _ => 0) := by
  have hlines : ∀ tokens : List Token, tokens.map (Token.renumber fun _ => 0)
      = (tokens.map (·.text)).map fun text => ⟨text, 0⟩ := fun tokens => by
    rw [List.map_map]
    rfl
  rw [← ofTokens_renumber, ← ofTokens_renumber, hlines, hlines, h]

end Assembly

end Quartet
