import Quartet.Address
import Quartet.CodeWord.Decode

namespace Quartet

/-!
# Faults

A run reports a word that cannot be decoded or executed as a fault and goes on with the next.

* `OutOfBounds` — an instruction that needs a register or cell the machine does not have.
* `Fault` — a faulty word: its position in the stream and what is wrong with it.
-/

/-- An instruction that touches an address the machine does not have. -/
structure OutOfBounds where
  instruction : Instruction
  address : Address
deriving DecidableEq

/-- The text of an access out of bounds. -/
def OutOfBounds.message (error : OutOfBounds) : String :=
  s!"out-of-bounds access to {error.address.text} in {error.instruction.opcode.name}: " ++
    error.instruction.summary

/-- What is wrong with a word. -/
inductive Fault.Cause where
  | decoding (error : DecodeError)
  | execution (error : OutOfBounds)
deriving DecidableEq

/-- The text of what is wrong with a word. -/
def Fault.Cause.message : Fault.Cause → String
  | decoding error => error.message
  | execution error => error.message

/-- A faulty word, with its position in the stream counted from 0. -/
structure Fault where
  index : Nat
  cause : Fault.Cause
deriving DecidableEq

/-- The text of a fault. -/
def Fault.message (fault : Fault) : String := s!"word {fault.index}: {fault.cause.message}"

end Quartet
