import Quartet.Text.Token
import Quartet.Assembly.Operand

namespace Quartet

/-!
# Statements

A token sequence is read from the left.  A mnemonic starts a command and takes as many of the
following tokens as its opcode asks for, whatever they are and whatever line they stand on;
any other token stands alone and means nothing.

* `Statement.ofTokens` — the statements of a token sequence.
* `Statement.entry` — what a command assembles to.
-/

/-- A part of a token sequence. -/
inductive Statement where
  /-- A token where a mnemonic was expected. -/
  | stray (token : Token)
  /-- A mnemonic with its operand tokens, of which there are too few only at the end. -/
  | command (opcode : Opcode) (mnemonic : Token) (operands : List Token)
deriving DecidableEq

/-- An assembled command: its instruction, its code word and the line of its mnemonic. -/
structure Entry where
  instruction : Instruction
  word : CodeWord
  line : Nat
deriving DecidableEq

namespace Statement

/-- The tokens of a statement, in order. -/
def tokens : Statement → List Token
  | stray token => [token]
  | command _ mnemonic operands => mnemonic :: operands

/-- Reads a token sequence as statements. -/
def ofTokens : List Token → List Statement
  | [] => []
  | token :: rest =>
    match Opcode.ofMnemonic? token.text with
    | none => stray token :: ofTokens rest
    | some opcode =>
      command opcode token (rest.take opcode.tokenCount) :: ofTokens (rest.drop opcode.tokenCount)
termination_by tokens => tokens.length
decreasing_by
  · simp
  · simp only [List.length_drop, List.length_cons]
    omega

/-- What a command assembles to.  Too few tokens are reported before anything about them, and
    the grammar before the size of the operands. -/
def entry (opcode : Opcode) (mnemonic : Token) (operands : List Token) :
    Except AssemblyError Entry :=
  let texts := operands.map (·.text)
  let malformed cause : Except AssemblyError Entry :=
    .error (.malformed ⟨opcode, mnemonic.text, texts, mnemonic.line, cause⟩)
  if operands.length < opcode.tokenCount then malformed .unexpectedEnd
  else
    match Operand.instruction opcode texts with
    | .error cause => malformed cause
    | .ok instruction =>
      match CodeWord.encode instruction with
      | .error error => .error (.unencodable mnemonic.line error)
      | .ok word => .ok ⟨instruction, word, mnemonic.line⟩

/-- Reading statements loses no token and keeps their order. -/
theorem flatMap_tokens_ofTokens (tokens : List Token) :
    (ofTokens tokens).flatMap Statement.tokens = tokens := by
  fun_induction ofTokens tokens with
  | case1 => rfl
  | case2 token rest _ ih => simp [Statement.tokens, ih]
  | case3 token rest opcode _ ih => simp [Statement.tokens, ih]

end Statement

end Quartet
