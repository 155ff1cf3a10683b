import Quartet.Assembly.Error
import Quartet.Text.Decimal

namespace Quartet

/-!
# Operands

The tokens after a mnemonic follow one form for each opcode:

* `LOAD_CONSTANT R4, #187`
* `MEMORY_READ R5, [R4]`
* `MEMORY_WRITE [R1 + 144], R6`
* `OR R5, [491] | R1`

An operand is a sigil followed by a decimal number.  Characters between the number's last
digit and the punctuation that ends the token are ignored.

* `Operand.number` — the value of the leading run of decimal digits.
* `Operand.read` — a sigil and a number.
* `Operand.instruction` — the instruction that the tokens of a statement give.
-/

namespace Operand

/-- The value of the leading run of ASCII digits, if there is one that fits in a word.  What
    follows the run does not matter. -/
def number (chars : List Char) : Except SyntaxError.Cause Word :=
  let digits := chars.takeWhile Char.isDigit
  if digits.isEmpty then .error .invalidNumber
  else if Text.decimal digits < UInt32.size then .ok (UInt32.ofNat (Text.decimal digits))
  else .error .invalidNumber

/-- A token's number after its sigil; without the sigil the token is `missing`. -/
def read (sigil : String) (missing : SyntaxError.Cause) (token : String) :
    Except SyntaxError.Cause Word :=
  match sigil.toList.isPrefixOf? token.toList with
  | some rest => number rest
  | none => .error missing

/-- A token without the mark at its end; without the mark the token is `missing`. -/
def without (mark : Char) (missing : SyntaxError.Cause) (token : String) :
    Except SyntaxError.Cause String :=
  if token.toList.getLast? = some mark then .ok (String.ofList token.toList.dropLast)
  else .error missing

/-- A token without the comma at its end. -/
def withoutComma (token : String) : Except SyntaxError.Cause String :=
  without ',' .missingComma token

/-- A token without the closing bracket at its end. -/
def withoutBracket (token : String) : Except SyntaxError.Cause String :=
  without ']' .invalidOperand token

/-- The number of a register named as `R4`. -/
def register (token : String) : Except SyntaxError.Cause Word :=
  read "R" .invalidRegister token

/-- The instruction that the tokens after a mnemonic give.  The checks are made in the order
    written here, and the first that fails is the statement's error. -/
def instruction : Opcode → List String → Except SyntaxError.Cause Instruction
  | .loadConstant, [target, constant] => do
    let destination ← register (← withoutComma target)
    let value ← read "#" .invalidOperand constant
    return .loadConstant destination value
  | .memoryRead, [target, source] => do
    let destination ← register (← withoutComma target)
    let base ← read "[R" .invalidOperand (← withoutBracket source)
    return .memoryRead base destination
  | .memoryWrite, [pointer, plus, distance, origin] => do
    let distance ← withoutComma distance
    if plus ≠ "+" then .error .missingPlus
    let source ← register origin
    let offset ← read "" .invalidOperand (← withoutBracket distance)
    let base ← read "[R" .invalidOperand pointer
    return .memoryWrite source offset base
  | .bitwiseOr, [target, cell, pipe, origin] => do
    let target ← withoutComma target
    if pipe ≠ "|" then .error .missingPipe
    let destination ← register target
    let address ← read "[" .invalidOperand (← withoutBracket cell)
    let source ← register origin
    return .bitwiseOr destination address source
  | _, _ => .error .unexpectedEnd

end Operand

end Quartet
