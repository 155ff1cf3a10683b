import Quartet.CodeWord.Stream
import Quartet.Event

namespace Quartet

/-!
# Assembly

Assembly turns text into code words, statement by statement.  Stray tokens are passed over
with a warning.  The first command that cannot be assembled stops assembly; what was assembled
before it is kept.

* `Assembly` — the entries assembled, the error that stopped assembly, and what was told.
* `Assembly.ofText` — the assembly of a text.
* `Assembly.code` — the stream of its code words.
-/

/-- What a text assembles to. -/
structure Assembly where
  /-- The commands assembled, in order. -/
  entries : List Entry
  /-- Why assembly stopped, if it did not reach the end of the text. -/
  error : Option AssemblyError
  /-- What was told, in order.  The error itself is not told here. -/
  events : List Event
deriving DecidableEq

namespace Assembly

/-- The assembly of statements. -/
def ofStatements : List Statement → Assembly
  | [] => ⟨[], none, []⟩
  | .stray token :: rest =>
    let later := ofStatements rest
    { later with events := .strayToken token :: later.events }
  | .command opcode mnemonic operands :: rest =>
    match Statement.entry opcode mnemonic operands with
    | .error error => ⟨[], some error, []⟩
    | .ok entry =>
      let later := ofStatements rest
      { later with
        entries := entry :: later.entries
        events := .assembled entry :: later.events }

/-- The assembly of a token sequence. -/
def ofTokens (tokens : List Token) : Assembly := ofStatements (Statement.ofTokens tokens)

/-- The assembly of a text. -/
def ofText (text : String) : Assembly := ofTokens (Token.ofText text)

/-- Whether assembly reached the end of the text. -/
def isComplete (assembly : Assembly) : Bool := assembly.error.isNone

/-- The instructions assembled, in order. -/
def instructions (assembly : Assembly) : List Instruction :=
  assembly.entries.map (·.instruction)

/-- The stream of the code words assembled. -/
def code (assembly : Assembly) : List UInt8 :=
  assembly.entries.flatMap fun entry => CodeWord.toBytes entry.word

end Assembly

end Quartet
