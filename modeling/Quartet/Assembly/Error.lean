import Quartet.CodeWord.Encode

namespace Quartet

/-!
# Assembly errors

A statement fails either because its tokens do not follow the grammar or because its operands
do not fit into a code word.

* `SyntaxError`, `SyntaxError.Cause` — a statement that does not follow the grammar, and why.
* `AssemblyError` — why assembly stopped.
-/

/-- The rule of the grammar that a statement breaks. -/
inductive SyntaxError.Cause where
  | missingComma
  | missingPlus
  | missingPipe
  | invalidRegister
  | invalidOperand
  | invalidNumber
  | unexpectedEnd
deriving DecidableEq

/-- The text of a broken rule. -/
def SyntaxError.Cause.message : SyntaxError.Cause → String
  | missingComma => "missing comma"
  | missingPlus => "missing '+'"
  | missingPipe => "missing '|'"
  | invalidRegister => "invalid register"
  | invalidOperand => "invalid operand"
  | invalidNumber => "invalid number"
  | unexpectedEnd => "unexpected end of input"

/-- A statement that does not follow the grammar, with the tokens read after its mnemonic. -/
structure SyntaxError where
  opcode : Opcode
  mnemonic : String
  tokens : List String
  line : Nat
  cause : SyntaxError.Cause
deriving DecidableEq

/-- The text of a statement's error. -/
def SyntaxError.message (error : SyntaxError) : String :=
  s!"syntax error on line {error.line}: {error.opcode.name} failed, {error.cause.message}; " ++
    s!"input: '{error.mnemonic}', tokens: '" ++ " ".intercalate error.tokens ++ "'"

/-- Why assembly stopped. -/
inductive AssemblyError where
  /-- A statement does not follow the grammar. -/
  | malformed (error : SyntaxError)
  /-- The operands of a statement do not fit into a code word. -/
  | unencodable (line : Nat) (error : EncodeError)
deriving DecidableEq

/-- The text of the error that stopped assembly. -/
def AssemblyError.message : AssemblyError → String
  | malformed error => error.message
  | unencodable line error => s!"encoding error on line {line}: {error.message}"

/-- The text of what lies behind the error, if it has a cause of its own. -/
def AssemblyError.causeMessage? : AssemblyError → Option String
  | malformed _ => none
  | unencodable _ error => some error.message

end Quartet
